namespace ClusterLedger.Text

def splitAt (separator : Char) : List Char → List (List Char)
  | [] => [[]]
  | c :: rest =>
    if c = separator then [] :: splitAt separator rest
    else
      match splitAt separator rest with
      | part :: others => (c :: part) :: others
      | [] => [[c]]

def split (separator : Char) (text : String) : List String :=
  (splitAt separator text.toList).map String.ofList

@[simp] theorem splitAt_ne_nil (separator : Char) (text : List Char) : splitAt separator text ≠ [] := by
  cases text with
  | nil => simp [splitAt]
  | cons c rest =>
    by_cases h : c = separator
    · simp [splitAt, h]
    · simp only [splitAt, h, if_false]
      split <;> simp

@[simp] theorem split_ne_nil (separator : Char) (text : String) : split separator text ≠ [] := by
  simp [split, splitAt_ne_nil]

end ClusterLedger.Text
