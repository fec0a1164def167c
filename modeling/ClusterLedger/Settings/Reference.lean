import ClusterLedger.Assoc

namespace ClusterLedger.SettingsFile

abbrev Bindings := List (String × Option String)

/-- A reference to a name; `fallback` stands for the name where it is not known. -/
structure Reference where
  name : String
  fallback : String
  deriving DecidableEq, Repr

namespace Reference

def endsName (c : Char) : Bool := c = '\x7d' || c = ':'

def readFallback? : List Char → Option (List Char × List Char)
  | '\x7d' :: rest => some ([], rest)
  | ':' :: '-' :: rest =>
    match rest.dropWhile (· ≠ '\x7d') with
    | _ :: after => some (rest.takeWhile (· ≠ '\x7d'), after)
    | [] => none
  | _ => none

def read? : List Char → Option (Reference × List Char)
  | '$' :: '\x7b' :: rest =>
    (readFallback? (rest.dropWhile fun c => !endsName c)).map fun (fallback, after) =>
      (⟨String.ofList (rest.takeWhile fun c => !endsName c), String.ofList fallback⟩, after)
  | _ => none

theorem length_readFallback? {cs fallback after : List Char}
    (found : readFallback? cs = some (fallback, after)) : after.length < cs.length := by
  unfold readFallback? at found
  split at found
  · simp_all
  · rename_i rest
    split at found
    · rename_i c tail shape
      have shorter := (List.dropWhile_suffix (l := rest) (· ≠ '\x7d')).length_le
      simp only [Option.some.injEq, Prod.mk.injEq] at found
      obtain ⟨-, rfl⟩ := found
      rw [shape] at shorter
      simp only [List.length_cons] at shorter ⊢
      omega
    · simp at found
  · simp at found

theorem length_read? {cs after : List Char} {r : Reference} (found : read? cs = some (r, after)) :
    after.length < cs.length := by
  unfold read? at found
  split at found
  · rename_i rest
    obtain ⟨⟨fallback, tail⟩, inner, same⟩ := Option.map_eq_some_iff.mp found
    simp only [Prod.mk.injEq] at same
    have first := length_readFallback? inner
    have second := (List.dropWhile_suffix (l := rest) fun c => !endsName c).length_le
    rw [same.2] at first
    simp only [List.length_cons]
    omega
  · simp at found

def value (known : Bindings) (r : Reference) : String :=
  match Assoc.find? r.name known with
  | some v => v.getD ""
  | none => r.fallback

def expandChars (known : Bindings) : List Char → List Char
  | [] => []
  | c :: rest =>
    match _found : read? (c :: rest) with
    | some (r, after) => (r.value known).toList ++ expandChars known after
    | none => c :: expandChars known rest
termination_by cs => cs.length
decreasing_by
  · exact length_read? _found
  · simp

def expand (known : Bindings) (text : String) : String :=
  String.ofList (expandChars known text.toList)

end Reference
end ClusterLedger.SettingsFile
