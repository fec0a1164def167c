import ClusterLedger.Cluster.MachineTemplate
import ClusterLedger.Proofs.Additions
import ClusterLedger.Proofs.Quantities.Suffixes

/-!
Disk sizes of templates. A size is the floor of the bytes that are meant in mebibytes, as long as there is room for
them. What is no quantity is refused with the name of the template; infinities, what is not a number and sizes beyond
all bounds are quantities, and fail otherwise.
-/

namespace ClusterLedger
namespace MachineTemplate

open Resource

def machineSpecPath : List Step := [.entry "spec", .entry "template", .entry "spec"]

theorem check_diskSize (fields : Fields) (gpuEnabled : Bool) (size : Int) :
    check fields gpuEnabled size = (check fields gpuEnabled 0).map ({ · with diskSize := size }) := by
  unfold check
  generalize Field.required fields "name" Field.text = name
  generalize Field.withDefault "" fields "sizing_policy" Field.text = sizing
  generalize Field.withDefault "" fields "placement_policy" Field.text = placement
  generalize Field.withDefault "" fields "storage_profile" Field.text = storage
  cases name <;> cases sizing <;> cases placement <;> cases storage <;> rfl

theorem name_of_check {fields : Fields} {gpuEnabled : Bool} {size : Int} {t : MachineTemplate}
    (accepted : check fields gpuEnabled size = .accepted t) :
    ∃ v, fields "name" = some v ∧ Field.heldText v = .ok t.name := by
  obtain ⟨_, _, toPlacement, _, rfl⟩ := Checked.apply_eq_accepted.mp accepted
  obtain ⟨_, _, toSizing, _, rfl⟩ := Checked.apply_eq_accepted.mp toPlacement
  obtain ⟨_, _, toName, _, rfl⟩ := Checked.apply_eq_accepted.mp toSizing
  obtain ⟨_, name, made, checked, rfl⟩ := Checked.apply_eq_accepted.mp toName
  cases made
  unfold Field.required at checked
  split at checked
  · next v given => exact ⟨v, given, Field.heldText_of_text (Checked.under_eq_accepted.mp checked)⟩
  · cases checked

def machineSpecOf (spec : Value) : Except Failure Value := do
  let template ← Resource.getOr spec "template" (.map [])
  Resource.getOr template "spec" (.map [])

theorem machineSpecOf_gains {name : String} {added : Value} {path : List Step} {a b : Value}
    (gains : Gains name added (.entry "template" :: .entry "spec" :: path) a b) :
    Agree (Gains name added path) (machineSpecOf a) (machineSpecOf b) :=
  (gains.getOr _).bind fun _ _ inner => inner.getOr _

def ofMachineSpec (machineSpec name : Value) : Except Failure MachineTemplate := do
  let sizing ← Resource.get machineSpec "sizingPolicy"
  let placement ← Resource.get machineSpec "placementPolicy"
  let gpu ← Resource.getOr machineSpec "enableNvidiaGPU" (.bool false)
  let storage ← Resource.get machineSpec "storageProfile"
  let diskSize ← diskSizeOf (← Resource.get machineSpec "diskSize") name
  let orEmpty (v : Value) := v.orElse (.text "")
  (check (Field.ofList [("name", name), ("sizing_policy", orEmpty sizing),
    ("placement_policy", orEmpty placement), ("storage_profile", orEmpty storage)])
    gpu.truthy diskSize).toExcept

theorem ofResource_eq (r : Value) :
    ofResource r = field r "metadata" >>= fun metadata => machineSpecOf (part r "spec") >>= fun machineSpec =>
      field metadata "name" >>= fun name => ofMachineSpec machineSpec name := by
  simp only [ofResource, ofMachineSpec, machineSpecOf, bind_assoc, Guise.orElse_client, Guise.counts_client]

/-- A disk size is read on its own: the rest of a template is the same without one. -/
theorem ofMachineSpec_of_diskSize {v a b name : Value} {t : MachineTemplate}
    (differ : DifferAt "diskSize" none (some v) a b) (read : ofMachineSpec a name = .ok t) :
    Field.heldText name = .ok t.name ∧
      ofMachineSpec b name = (diskSizeOf v name).map fun size => { t with diskSize := size } := by
  unfold ofMachineSpec at read ⊢
  have free : "diskSize" ≠ obstructingField ∨ (none : Option Value).isSome = (some v).isSome := .inl (by decide)
  rw [differ.get_of_ne free (by decide), differ.get_of_ne free (by decide), differ.get_of_ne free (by decide),
    differ.getOr_of_ne free (by decide)]
  obtain ⟨sizing, atSizing, read⟩ := ok_of_bind read
  obtain ⟨placement, atPlacement, read⟩ := ok_of_bind read
  obtain ⟨gpu, atGpu, read⟩ := ok_of_bind read
  obtain ⟨storage, atStorage, read⟩ := ok_of_bind read
  obtain ⟨disk, atDisk, read⟩ := ok_of_bind read
  have both := differ.get_self free
  rw [atDisk] at both
  obtain ⟨_, atDisk', rfl, added⟩ := both.of_ok
  have accepted := Checked.toExcept_eq_ok.mp read
  obtain ⟨_, given, held⟩ := name_of_check accepted
  obtain rfl := Option.some.inj given
  refine ⟨held, ?_⟩
  rw [atSizing, atPlacement, atGpu, atStorage, atDisk', added]
  show (diskSizeOf v name >>= fun size => _) = _
  cases diskSizeOf v name with
  | error failure => rfl
  | ok size =>
    show Checked.toExcept (check _ _ size) = _
    rw [check_diskSize, accepted]
    rfl

theorem ofResource_of_diskSize {v r r' : Value} {t : MachineTemplate} (gains : Gains "diskSize" v machineSpecPath r r')
    (read : ofResource r = .ok t) :
    ∃ name, Field.heldText name = .ok t.name ∧
      ofResource r' = (diskSizeOf v name).map fun size => { t with diskSize := size } := by
  rw [ofResource_eq] at read ⊢
  rw [gains.field_of_ne (by decide)]
  obtain ⟨metadata, atMetadata, read⟩ := ok_of_bind read
  obtain ⟨machineSpec, atSpec, read⟩ := ok_of_bind read
  obtain ⟨name, atName, read⟩ := ok_of_bind read
  have both := machineSpecOf_gains gains.part
  rw [atSpec] at both
  obtain ⟨machineSpec', atSpec', gains⟩ := both.of_ok
  obtain ⟨held, same⟩ := ofMachineSpec_of_diskSize gains.differ_of_nil read
  refine ⟨name, held, ?_⟩
  rw [atMetadata, atSpec', ← same]
  show (field metadata "name" >>= fun name => ofMachineSpec machineSpec' name) = _
  rw [atName]
  rfl

/-! ### The exact floor -/

/--
The number of bytes that a size denotes: a whole number, or a number in text with a suffix or without one. Behind a
number with a suffix there is room for 28 digits.
-/
inductive DenotesBytes : Value → ℚ → Prop
  | whole (n : Int) : DenotesBytes (.whole n) n
  | plain {n : Numeral} {number : List Char} (spells : Decimal.Spells n number) :
    DenotesBytes (.text (String.ofList number)) n.value
  | scaled {n : Numeral} {factor : ℚ} {number suffix : List Char} (spells : Decimal.Spells n number)
    (written : Quantity.FactorText factor suffix) (digits : HasDigits 28 (n.value * factor)) :
    DenotesBytes (.text (String.ofList (number ++ suffix))) (n.value * factor)

theorem diskSizeOf_of_quantity {v : Value} {bytes : Decimal} (read : quantity v = .ok bytes) (name : Value) :
    diskSizeOf v name = mebibytes bytes := by
  unfold diskSizeOf
  split
  · cases read
  · cases read
  · rw [read]

theorem mebibytes_finite (n : Numeral) :
    mebibytes (.finite n) = if n.magnitude < byteLimit then .ok (wholeMebibytes n) else .error .noQuotient := by
  unfold mebibytes
  dsimp only
  rw [wholeMebibytes?_eq]
  by_cases below : n.magnitude < byteLimit
  · rw [if_pos below, if_pos below]
  · rw [if_neg below, if_neg below]

theorem quantity_of_denotesBytes {v : Value} {bytes : ℚ} (denotes : DenotesBytes v bytes) (nonneg : 0 ≤ bytes)
    (below : bytes < 10 ^ 28) : ∃ n : Numeral, quantity v = .ok (.finite n) ∧ n.value = bytes := by
  cases denotes with
  | whole n => exact ⟨⟨n < 0, n.natAbs, 0⟩, rfl, Numeral.value_of_whole n⟩
  | plain spells => exact ⟨_, Quantity.parse_plain spells, rfl⟩
  | @scaled n factor number suffix spells written digits =>
    have positive : 0 ≤ n.value := nonneg_of_mul_nonneg_left nonneg written.pos
    have magnitude := Numeral.magnitude_of_nonneg positive
    rw [← magnitude] at digits below ⊢
    obtain ⟨m, parsed, sign, scaled⟩ := Quantity.parse_scaled spells written digits below
    refine ⟨m, parsed, ?_⟩
    calc m.value
      _ = if n.negative then -(n.magnitude * factor) else n.magnitude * factor := by rw [Numeral.value, sign, scaled]
      _ = n.value * factor := by
        rw [Numeral.value]
        split <;> ring
      _ = n.magnitude * factor := by rw [magnitude]

theorem wholeMebibytes_of_nonneg {n : Numeral} (nonneg : 0 ≤ n.value) : wholeMebibytes n = ⌊n.value / 2 ^ 20⌋ := by
  have magnitude := Numeral.magnitude_of_nonneg nonneg
  unfold wholeMebibytes
  rw [magnitude]
  split
  · next negative =>
    have zero : n.value = 0 := by
      have opposite : n.value = -n.magnitude := by rw [Numeral.value, if_pos negative]
      linarith
    rw [zero]
    norm_num
  · rfl

def templateOf (name : String) (entries : List (Value × Value)) : Value :=
  .resource [(.text "metadata", .resource [(.text "name", .text name)]),
    (.text "spec", .resource [(.text "template", .resource [(.text "spec", .resource entries)])])]

theorem gains_diskSize (name : String) (v : Value) :
    Gains "diskSize" v machineSpecPath (templateOf name []) (templateOf name [(.text "diskSize", v)]) := by
  have sized : Gains "diskSize" v [] (.resource []) (.resource [(.text "diskSize", v)]) := .here (.missing rfl v)
  have template := Gains.under (.under sized (.changed "spec" _ _ [])) (.changed "template" _ _ [])
  exact .under template ((DifferAt.changed "spec" _ _ []).behind (by decide) _)

/-- Of a size that is a number of bytes, as long as it is denoted within 28 digits, nothing but a fraction is lost. -/
theorem ofResource_floor {v r r' : Value} {t : MachineTemplate} {bytes : ℚ}
    (gains : Gains "diskSize" v machineSpecPath r r') (read : ofResource r = .ok t) (denotes : DenotesBytes v bytes)
    (nonneg : 0 ≤ bytes) (below : bytes < 10 ^ 28) :
    ofResource r' = .ok { t with diskSize := ⌊bytes / 2 ^ 20⌋ } := by
  obtain ⟨name, _, reads⟩ := ofResource_of_diskSize gains read
  obtain ⟨n, parsed, rfl⟩ := quantity_of_denotesBytes denotes nonneg below
  have small : n.magnitude < byteLimit := by
    rw [Numeral.magnitude_of_nonneg nonneg]
    exact below.trans (by norm_num [byteLimit])
  calc ofResource r'
    _ = (mebibytes (.finite n)).map fun size => { t with diskSize := size } := by
      rw [reads, diskSizeOf_of_quantity parsed]
    _ = .ok { t with diskSize := wholeMebibytes n } := by
      rw [mebibytes_finite, if_pos small]
      rfl
    _ = .ok { t with diskSize := ⌊n.value / 2 ^ 20⌋ } := by rw [wholeMebibytes_of_nonneg nonneg]

theorem ofResource_floor_below_four :
    Gains "diskSize" (.text " 4_095.999999999999999999Ki") machineSpecPath (templateOf "db" [])
        (templateOf "db" [(.text "diskSize", .text " 4_095.999999999999999999Ki")]) ∧
      ofResource (templateOf "db" []) = .ok ⟨"db", "", "", false, "", 0⟩ ∧
      DenotesBytes (.text " 4_095.999999999999999999Ki") (2 ^ 22 - 1024 / 10 ^ 18) ∧
      ofResource (templateOf "db" [(.text "diskSize", .text " 4_095.999999999999999999Ki")]) =
        .ok ⟨"db", "", "", false, "", 3⟩ := by
  have gains := gains_diskSize "db" (.text " 4_095.999999999999999999Ki")
  have read : ofResource (templateOf "db" []) = .ok ⟨"db", "", "", false, "", 0⟩ := rfl
  have spells : Decimal.Spells ⟨false, 4095999999999999999999, -18⟩ " 4_095.999999999999999999".toList := by
    have numeral : Numeral.read? "4095.999999999999999999".toList =
        some ⟨false, 4095999999999999999999, -18⟩ := by decide
    refine ⟨⟨_, by decide, Numeral.read?_eq_some_iff.mp numeral⟩, ?_⟩
    simp [Decimal.inRange, Decimal.greatestPower, Decimal.leastPower, decimalLength]
  have bytes : (Numeral.mk false 4095999999999999999999 (-18)).value * 1024 ^ (1 : Int) = 2 ^ 22 - 1024 / 10 ^ 18 := by
    norm_num [Numeral.value, Numeral.magnitude]
  have denotes : DenotesBytes (.text " 4_095.999999999999999999Ki") (2 ^ 22 - 1024 / 10 ^ 18) := by
    have digits : HasDigits 28 (2 ^ 22 - 1024 / 10 ^ 18) := ⟨4194303999999999999998976, -18, by norm_num, by norm_num⟩
    rw [← bytes] at digits ⊢
    exact .scaled spells (.binary (by decide)) digits
  have floor : ⌊(2 ^ 22 - 1024 / 10 ^ 18 : ℚ) / 2 ^ 20⌋ = 3 := by
    rw [Int.floor_eq_iff]
    norm_num
  refine ⟨gains, read, denotes, ?_⟩
  rw [ofResource_floor gains read denotes (by norm_num) (by norm_num), floor]

/-! ### Which sizes are contained -/

theorem mebibytes_eq_ok_iff {bytes : Decimal} :
    (∃ size, mebibytes bytes = .ok size) ↔ ∃ n, bytes = .finite n ∧ |n.value| < 10 ^ 28 * 2 ^ 20 := by
  cases bytes with
  | finite n =>
    have below : |n.value| < 10 ^ 28 * 2 ^ 20 ↔ n.magnitude < byteLimit := by rw [Numeral.abs_value, byteLimit]
    rw [mebibytes_finite]
    by_cases small : n.magnitude < byteLimit <;> simp [small, below]
  | infinite negative => simp [mebibytes]
  | nan negative signaling payload => simp [mebibytes]

/-- How mebibytes fail does not tell what is configured wrongly. -/
theorem mebibytes_ne_misconfigured (bytes : Decimal) (what : Misconfiguration) (context : Context) :
    mebibytes bytes ≠ .error (.misconfigured what context) := by
  unfold mebibytes
  split
  · split <;> exact nofun
  · exact nofun
  · split <;> exact nofun

theorem diskSizeOf_of_error {v : Value} {e : QuantityError} (unread : quantity v = .error e) (name : Value) :
    diskSizeOf v name = .ok 0 ∨ diskSizeOf v name = .error (.misconfigured (.invalidDiskSize v.shown e.message)
      { kind := some "VCDMachineTemplate", name := name.toOption }) := by
  unfold diskSizeOf
  split
  · exact .inl rfl
  · exact .inl rfl
  · rw [unread]
    exact .inr rfl

theorem quantity_rounded :
    quantity (.text "9999999999999999999999999999Mi") = .ok (.finite ⟨false, 1048576000000000000000000000, 7⟩) := by
  have numeral : Numeral.read? "9999999999999999999999999999".toList =
      some ⟨false, 9999999999999999999999999999, 0⟩ := by decide
  have spells : Decimal.Spells ⟨false, 9999999999999999999999999999, 0⟩ "9999999999999999999999999999".toList := by
    refine ⟨⟨_, by decide, Numeral.read?_eq_some_iff.mp numeral⟩, ?_⟩
    simp [Decimal.inRange, Decimal.greatestPower, Decimal.leastPower, decimalLength]
  have split : Quantity.splitSuffix "9999999999999999999999999999Mi".toList =
      ("9999999999999999999999999999".toList, some ⟨'M', 2, true⟩) := by decide
  have parsed : ∀ s, quantity (.text s) = Quantity.parse s := fun _ => rfl
  rw [parsed, Quantity.parse, split]
  dsimp only
  rw [Decimal.read?_eq_finite_iff.mpr spells]
  simp [Quantity.Suffix.isKnown, Quantity.withSuffix, Quantity.Suffix.scale, Decimal.rounded, decimalLength, raise,
    Binary64.nearest, Decimal.overflows, Decimal.precision]

/--
A template is read or refused by its name exactly if its disk size is no quantity or a number below 2 ^ 20 times
10 ^ 28 bytes. An infinity, what is not a number and a number beyond that are quantities, and only the reading of
quantities is guarded.
-/
theorem diskSize_contained_iff {v r r' : Value} {t : MachineTemplate} (gains : Gains "diskSize" v machineSpecPath r r')
    (read : ofResource r = .ok t) :
    ((∃ size, ofResource r' = .ok { t with diskSize := size }) ∨
        ∃ name message, Field.heldText name = .ok t.name ∧
          ofResource r' = .error (.misconfigured (.invalidDiskSize v.shown message)
            { kind := some "VCDMachineTemplate", name := some name })) ↔
      ∀ bytes, quantity v = .ok bytes → ∃ n, bytes = .finite n ∧ |n.value| < 10 ^ 28 * 2 ^ 20 := by
  obtain ⟨name, held, reads⟩ := ofResource_of_diskSize gains read
  have named : name.toOption = some name := by
    cases name with
    | null => cases held
    | _ => rfl
  rw [reads]
  cases parsed : quantity v with
  | error e =>
    refine iff_of_true ?_ nofun
    rcases diskSizeOf_of_error parsed name with none | refused
    · exact .inl ⟨0, by rw [none]; rfl⟩
    · refine .inr ⟨name, e.message, held, ?_⟩
      rw [refused, named]
      rfl
  | ok bytes =>
    rw [diskSizeOf_of_quantity parsed]
    have contained : (∀ other, Except.ok (ε := QuantityError) bytes = .ok other →
        ∃ n, other = .finite n ∧ |n.value| < 10 ^ 28 * 2 ^ 20) ↔ ∃ size, mebibytes bytes = .ok size := by
      rw [mebibytes_eq_ok_iff]
      exact ⟨fun all => all bytes rfl, fun known other same => Except.ok.inj same ▸ known⟩
    rw [contained]
    cases outcome : mebibytes bytes with
    | ok size => exact iff_of_true (.inl ⟨size, rfl⟩) ⟨size, rfl⟩
    | error failure =>
      refine iff_of_false ?_ nofun
      rintro (⟨size, read⟩ | ⟨_, _, _, refused⟩)
      · cases read
      · cases refused
        exact mebibytes_ne_misconfigured _ _ _ outcome

/-- A size that only rounding takes to the bound is not contained. -/
theorem diskSize_contained_iff_rounded :
    Gains "diskSize" (.text "9999999999999999999999999999Mi") machineSpecPath (templateOf "db" [])
        (templateOf "db" [(.text "diskSize", .text "9999999999999999999999999999Mi")]) ∧
      ofResource (templateOf "db" []) = .ok ⟨"db", "", "", false, "", 0⟩ ∧
      ¬((∃ size, ofResource (templateOf "db" [(.text "diskSize", .text "9999999999999999999999999999Mi")]) =
            .ok ⟨"db", "", "", false, "", size⟩) ∨
          ∃ name message, Field.heldText name = .ok "db" ∧
            ofResource (templateOf "db" [(.text "diskSize", .text "9999999999999999999999999999Mi")]) =
              .error (.misconfigured (.invalidDiskSize "9999999999999999999999999999Mi" message)
                { kind := some "VCDMachineTemplate", name := some name })) := by
  have gains := gains_diskSize "db" (.text "9999999999999999999999999999Mi")
  have read : ofResource (templateOf "db" []) = .ok ⟨"db", "", "", false, "", 0⟩ := rfl
  refine ⟨gains, read, fun contained => ?_⟩
  obtain ⟨n, same, below⟩ := (diskSize_contained_iff gains read).mp contained _ quantity_rounded
  cases same
  norm_num [Numeral.value, Numeral.magnitude] at below

theorem infinite_diskSize :
    ofResource (templateOf "db" [(.text "diskSize", .text "Infinity")]) = .error .infiniteSize := rfl

end MachineTemplate
end ClusterLedger
