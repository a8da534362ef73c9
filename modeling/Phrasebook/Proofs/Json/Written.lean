import Phrasebook.Json.Value
import Phrasebook.Proofs.Json.Quoted

/-! # What is written is read back

A reader undoes a writer if it takes back what was written, with any blank characters in front of it
and whatever stands behind it (`Reader.Undoes`). The compact and the pretty form differ in nothing but
the blank characters between the parts, and both are texts of their value (`elements_separated`), so
the law goes up from strings to lists and objects with the readers that take all such texts.
-/

namespace Phrasebook.Json

/-! ## Blank characters -/

variable {gap close space : List Char}

theorem blank_singleton : Blank [' '] := by simp [Blank, isBlank]

theorem blank_lineBreak (level : Nat) : Blank (Value.lineBreak level) := by
  intro c hc
  rcases List.mem_cons.mp hc with rfl | hc
  · rfl
  · rw [List.eq_of_mem_replicate hc]
    rfl

/-! ## Lists and objects -/

/-- Parts with commas between them. -/
def separated : List (List Char) → List Char
  | [] => []
  | part :: parts => part ++ parts.flatMap (',' :: ·)

theorem separated_cons_cons (part next : List Char) (parts : List (List Char)) :
    separated (part :: next :: parts) = part ++ ',' :: separated (next :: parts) := rfl

/-- A member of an object as it is written, with gaps in front of its key and of its value. -/
def memberText {α : Type} (gap space : List Char) (write : α → List Char)
    (member : String × α) : List Char :=
  gap ++ (quote member.1 ++ ':' :: (space ++ write member.2))

theorem map_memberText {α β : Type} (gap space : List Char) (write : β → List Char) (f : α → β)
    (members : List (String × α)) :
    (members.map fun m => (m.1, f m.2)).map (memberText gap space write) =
      members.map (memberText gap space fun a => write (f a)) := by
  rw [List.map_map]
  rfl

/-- Parts that are separated by commas are elements, whatever blank characters stand in front of each
and behind the last. -/
theorem elements_separated {α : Type} {Part : α → List Char → Prop} {write : α → List Char}
    (h : ∀ a, Part a (write a)) (hg : Blank gap) (hc : Blank close) (a : α) (as : List α) :
    Elements Part (a :: as) (separated ((a :: as).map fun a => gap ++ write a) ++ close) := by
  induction as generalizing a with
  | nil =>
      have text : separated ([a].map fun a => gap ++ write a) ++ close =
          gap ++ (write a ++ close) := by simp [separated]
      rw [text]
      exact .last hg (h a) hc
  | cons b as ih =>
      have text : separated ((a :: b :: as).map fun a => gap ++ write a) ++ close =
          gap ++ (write a ++ ([] ++ ',' ::
            (separated ((b :: as).map fun a => gap ++ write a) ++ close))) := by
        simp [separated]
      rw [text]
      exact .cons hg (h a) blank_nil (ih b)

section Texts

variable {α : Type} {Part : α → List Char → Prop} {write : α → List Char}

theorem enclosed_separated (opening closing : Char) (h : ∀ a, Part a (write a)) (hg : Blank gap)
    (hc : Blank close) (as : List α) :
    Enclosed opening closing Part as
      (opening :: (separated (as.map fun a => gap ++ write a) ++ close ++ [closing])) := by
  cases as with
  | nil => exact .empty hc
  | cons a as => exact .full (elements_separated h hg hc a as)

theorem listText_separated (h : ∀ a, Part a (write a)) (hg : Blank gap) (hc : Blank close)
    (as : List α) :
    ListText Part as ('[' :: (separated (as.map fun a => gap ++ write a) ++ close ++ [']'])) :=
  enclosed_separated '[' ']' h hg hc as

theorem objectText_separated (h : ∀ a, Part a (write a)) (hg : Blank gap) (hs : Blank space)
    (hc : Blank close) (members : List (String × α)) :
    ObjectText Part members
      ('\x7b' :: (separated (members.map (memberText gap space write)) ++ close ++ ['\x7d'])) := by
  refine enclosed_separated '\x7b' '\x7d' (fun member => ?_) hg hc members
  exact ⟨quote member.1, [], space, write member.2, stringText_quote member.1, blank_nil, hs,
    h member.2, rfl⟩

end Texts

namespace Value

theorem compactItems_eq (items : List Value) :
    compactItems items = separated (items.map compact) := by
  induction items with
  | nil => rfl
  | cons v items ih =>
      cases items with
      | nil => simp [compactItems, separated]
      | cons w items =>
          rw [compactItems, ih]
          · rfl
          · simp

theorem prettyItems_eq (level : Nat) (items : List Value) :
    prettyItems level items =
      separated (items.map fun v => lineBreak level ++ prettyAt level v) := by
  induction items with
  | nil => rfl
  | cons v items ih =>
      cases items with
      | nil => simp [prettyItems, separated]
      | cons w items =>
          rw [prettyItems, ih]
          · rfl
          · simp

theorem compactMembers_eq (members : List (String × Value)) :
    compactMembers members = separated (members.map (memberText [] [] compact)) := by
  induction members with
  | nil => rfl
  | cons m members ih =>
      cases members with
      | nil => simp [compactMembers, separated, memberText]
      | cons n members =>
          rw [compactMembers, ih]
          · simp [separated_cons_cons, memberText]
          · simp

theorem prettyMembers_eq (level : Nat) (members : List (String × Value)) :
    prettyMembers level members =
      separated (members.map (memberText (lineBreak level) [' '] (prettyAt level))) := by
  induction members with
  | nil => rfl
  | cons m members ih =>
      cases members with
      | nil => simp [prettyMembers, separated, memberText]
      | cons n members =>
          rw [prettyMembers, ih]
          · simp [separated_cons_cons, memberText]
          · simp

end Value

/-! ## Written values -/

section Written

variable {α : Type} {Part : α → List Char → Prop} {f : α → Value}

/-- What is written for a list in the compact form is one of its texts. -/
theorem listText_compact (h : ∀ a, Part a (f a).compact) (as : List α) :
    ListText Part as (Value.list (as.map f)).compact := by
  have text : (Value.list (as.map f)).compact =
      '[' :: (separated (as.map fun a => [] ++ (f a).compact) ++ [] ++ [']']) := by
    simp [Value.compact, Value.compactItems_eq, Function.comp_def]
  rw [text]
  exact listText_separated h blank_nil blank_nil as

theorem objectText_compact (h : ∀ a, Part a (f a).compact) (ms : List (String × α)) :
    ObjectText Part ms (Value.object (ms.map fun m => (m.1, f m.2))).compact := by
  have text : (Value.object (ms.map fun m => (m.1, f m.2))).compact =
      '\x7b' :: (separated (ms.map (memberText [] [] fun a => (f a).compact)) ++ [] ++
        ['\x7d']) := by
    rw [← map_memberText _ _ Value.compact f, ← Value.compactMembers_eq]
    simp [Value.compact]
  rw [text]
  exact objectText_separated h blank_nil blank_nil blank_nil ms

/-- So is what is written in the pretty form, with the elements one level further in. -/
theorem listText_prettyAt {level : Nat} (h : ∀ a, Part a ((f a).prettyAt (level + 1)))
    (as : List α) : ListText Part as ((Value.list (as.map f)).prettyAt level) := by
  -- Without elements there is no line break in front of the bracket.
  obtain ⟨close, hc, text⟩ : ∃ close, Blank close ∧ (Value.list (as.map f)).prettyAt level =
      '[' :: (separated (as.map fun a =>
        Value.lineBreak (level + 1) ++ (f a).prettyAt (level + 1)) ++ close ++ [']']) := by
    cases as with
    | nil => exact ⟨[], blank_nil, by simp [Value.prettyAt, separated]⟩
    | cons a as =>
        refine ⟨_, blank_lineBreak level, ?_⟩
        simp [Value.prettyAt, Value.prettyItems_eq, Function.comp_def]
  rw [text]
  exact listText_separated h (blank_lineBreak _) hc as

theorem objectText_prettyAt {level : Nat} (h : ∀ a, Part a ((f a).prettyAt (level + 1)))
    (ms : List (String × α)) :
    ObjectText Part ms ((Value.object (ms.map fun m => (m.1, f m.2))).prettyAt level) := by
  obtain ⟨close, hc, text⟩ : ∃ close, Blank close ∧
      (Value.object (ms.map fun m => (m.1, f m.2))).prettyAt level =
        '\x7b' :: (separated (ms.map (memberText (Value.lineBreak (level + 1)) [' ']
          fun a => (f a).prettyAt (level + 1))) ++ close ++ ['\x7d']) := by
    cases ms with
    | nil => exact ⟨[], blank_nil, by simp [Value.prettyAt, separated]⟩
    | cons m ms =>
        refine ⟨_, blank_lineBreak level, ?_⟩
        rw [← map_memberText _ _ (Value.prettyAt (level + 1)) f, ← Value.prettyMembers_eq]
        simp [Value.prettyAt]
  rw [text]
  exact objectText_separated h (blank_lineBreak _) blank_singleton hc ms

end Written

namespace Reader

variable {α : Type} {r item value : Reader α} {write : α → List Char}
  {Part : α → List Char → Prop}

/-- What is written is read back, with blank characters in front and anything behind it. -/
structure Undoes (r : Reader α) (write : α → List Char) : Prop where
  read : ∀ (a : α) (gap rest : List Char), Blank gap →
    r.read (gap ++ (write a ++ rest)) = .ok (a, rest)
  solid : ∀ a, Solid (write a)

theorem Undoes.read_append (undoes : r.Undoes write) (a : α) (rest : List Char) :
    r.read (write a ++ rest) = .ok (a, rest) := undoes.read a [] rest blank_nil

/-- What is written may be one of the texts that a reader takes. -/
theorem Takes.undoes (takes : r.Takes Part) (h : ∀ a, Part a (write a)) : r.Undoes write where
  read a _ rest hg := takes.read (h a) hg rest
  solid a := takes.solid (h a)

theorem Undoes.takes (undoes : r.Undoes write) : r.Takes fun a cs => cs = write a where
  read := by
    rintro a _ rfl gap hg rest
    exact undoes.read a gap rest hg
  solid := by
    rintro a _ rfl
    exact undoes.solid a

/-! ## Readers that undo the writing of values -/

theorem undoes_quote : string.Undoes quote := takes_stringText.undoes stringText_quote

variable {f : α → Value}

/-- If elements are read back in the pretty form, so are lists of them one level further out. -/
theorem undoes_prettyList {level : Nat}
    (undoes : item.Undoes fun a => (f a).prettyAt (level + 1)) :
    (list item).Undoes fun as => (Value.list (as.map f)).prettyAt level :=
  (takes_listText undoes.takes).undoes (listText_prettyAt fun _ => rfl)

theorem undoes_prettyObject {level : Nat}
    (undoes : value.Undoes fun a => (f a).prettyAt (level + 1)) :
    (object value).Undoes fun ms =>
      (Value.object (ms.map fun m => (m.1, f m.2))).prettyAt level :=
  (takes_objectText undoes.takes).undoes (objectText_prettyAt fun _ => rfl)

/-! ## Whole texts -/

theorem readAll_of_undoes (undoes : r.Undoes write) (a : α) (h : Blank gap) :
    r.readAll (String.ofList (write a ++ gap)) = .ok a := by
  apply readAll_of_takes undoes.takes
  exact ⟨[], write a, gap, blank_nil, rfl, h, String.toList_ofList⟩

theorem readAll_pretty_line (undoes : r.Undoes fun a => (f a).prettyAt 0) (a : α) :
    r.readAll ((f a).toPretty ++ "\n") = .ok a := by
  have line : (f a).toPretty ++ "\n" = String.ofList ((f a).prettyAt 0 ++ ['\n']) :=
    String.ofList_append.symm
  rw [line]
  exact readAll_of_undoes undoes a (blank_lineBreak 0)

end Reader

end Phrasebook.Json
