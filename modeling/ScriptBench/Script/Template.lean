/-! Templates. A placeholder is a name of capital letters and underscores between two underscores on
either side, such as `__MAX_STEPS__`. -/
namespace ScriptBench.Script

def isCapital (c : Char) : Bool := 'A' ≤ c && c ≤ 'Z'

/-- Splits a text behind the longest name that two underscores follow, of which one or more letters are
still to come. Gives the rest of the name and the text behind the underscores. -/
def restOfName? : List Char → Option (List Char × List Char)
  | [] => none
  | c :: text =>
    if isCapital c || c == '_' then
      match restOfName? text with
      | some (name, rest) => some (c :: name, rest)
      | none =>
        match text with
        | '_' :: '_' :: rest => if isCapital c then some ([c], rest) else none
        | _ => none
    else none

/-- The name of the placeholder at the front of a text, and the text behind it. A name has at least two
letters, and the longest one counts. -/
def placeholder? : List Char → Option (List Char × List Char)
  | '_' :: '_' :: c :: text =>
    if isCapital c then (restOfName? text).map fun (name, rest) => (c :: name, rest) else none
  | _ => none

theorem restOfName?_length {text name rest : List Char} (h : restOfName? text = some (name, rest)) :
    rest.length < text.length := by
  induction text generalizing name with
  | nil => simp [restOfName?] at h
  | cons c text ih =>
    unfold restOfName? at h
    split at h
    · split at h
      · rename_i n r ht
        simp only [Option.some.injEq, Prod.mk.injEq] at h
        obtain ⟨_, rfl⟩ := h
        have := ih ht
        simp only [List.length_cons]
        omega
      · split at h
        · split at h
          · simp only [Option.some.injEq, Prod.mk.injEq] at h
            simp only [List.length_cons, ← h.2]
            omega
          · simp at h
        · simp at h
    · simp at h

theorem placeholder?_length {text name rest : List Char} (h : placeholder? text = some (name, rest)) :
    rest.length < text.length := by
  unfold placeholder? at h
  split at h
  · split at h
    · simp only [Option.map_eq_some_iff, Prod.mk.injEq, Prod.exists] at h
      obtain ⟨n, r, hr, _, rfl⟩ := h
      have := restOfName?_length hr
      simp only [List.length_cons]
      omega
    · simp at h
  · simp at h

/-- Puts values for the placeholders, from left to right. The first value of a name counts, a placeholder
without a value stays, and what was put in is not looked at again. -/
def fillChars (values : List (List Char × List Char)) (text : List Char) : List Char :=
  match _h : placeholder? text with
  | some (name, rest) =>
    (values.lookup name).getD ('_' :: '_' :: name ++ ['_', '_']) ++ fillChars values rest
  | none =>
    match text with
    | [] => []
    | c :: more => c :: fillChars values more
termination_by text.length
decreasing_by
  · exact placeholder?_length _h
  · simp

def fill (template : String) (values : List (String × String)) : String :=
  String.ofList (fillChars (values.map fun (name, value) => (name.toList, value.toList)) template.toList)

def ofRows (rows : List String) : String := String.join (rows.map (· ++ "\n"))

end ScriptBench.Script
