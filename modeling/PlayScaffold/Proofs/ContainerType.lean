import PlayScaffold.Proofs.Brackets

/-!
# Container types and their text

Reading a container type loses nothing but white space: its name, brackets, key and element make up
the text that was read.

    parse? type = some c → squeeze c.text.toList = squeeze type.toList      (squeeze_text)
-/

namespace PlayScaffold

open Text

/-! ## Text without white space -/

namespace Text

/-- The text without its white space. -/
def squeeze (cs : List Char) : List Char := cs.filter fun c => !isWhiteSpace c

theorem squeeze_append (as bs : List Char) : squeeze (as ++ bs) = squeeze as ++ squeeze bs :=
  List.filter_append ..

theorem squeeze_reverse (cs : List Char) : squeeze cs.reverse = (squeeze cs).reverse :=
  List.filter_reverse ..

theorem squeeze_trimStart (cs : List Char) : squeeze (trimStart cs) = squeeze cs := by
  induction cs with
  | nil => rfl
  | cons c rest ih =>
    unfold trimStart squeeze at *
    rw [List.dropWhile_cons]
    split
    · next hc => rw [ih, List.filter_cons_of_neg (by simp [hc])]
    · rfl

theorem squeeze_trim (cs : List Char) : squeeze (trim cs) = squeeze cs := by
  rw [trim, squeeze_reverse, squeeze_trimStart, squeeze_reverse, List.reverse_reverse,
    squeeze_trimStart]

end Text

namespace ContainerKind

theorem eq_of_body? (kind : ContainerKind) (type rest : List Char)
    (h : kind.body? type = some rest) : type = kind.name.toList ++ '<' :: rest := by
  unfold body? at h
  simp only at h
  split at h
  · next hprefix =>
    obtain ⟨after, rfl⟩ := List.isPrefixOf_iff_prefix.mp hprefix
    rw [List.drop_left] at h
    cases h
    simp
  · cases h

theorem body?_opening (kind : ContainerKind) (rest : List Char) :
    kind.body? (kind.name.toList ++ '<' :: rest) = some rest := by
  have hsplit : kind.name.toList ++ '<' :: rest = (kind.name.toList ++ ['<']) ++ rest := by simp
  rw [body?, hsplit, if_pos (List.isPrefixOf_iff_prefix.mpr (List.prefix_append _ _)),
    List.drop_left]

theorem mem_all (kind : ContainerKind) : kind ∈ all := by
  cases kind <;> decide

/-- No name begins another, so that one container at most is opened. -/
theorem findSome?_body? (kind : ContainerKind) (rest : List Char) :
    (all.findSome? fun k => (k.body? (kind.name.toList ++ '<' :: rest)).map (k, ·)) =
      some (kind, rest) := by
  cases kind <;> rfl

end ContainerKind

namespace ContainerType

/-- The type as it is written. -/
def text (c : ContainerType) : String :=
  let key := match c.key with
    | some key => key ++ ","
    | none => ""
  c.kind.name ++ "<" ++ key ++ c.element ++ ">"

/-! ## Reading -/

/-- **A container's body** is what stands between its brackets, which are the outermost ones. -/
theorem body?_eq_some_iff (type : List Char) (kind : ContainerKind) (inner : List Char) :
    body? type = some (kind, inner) ↔
      trim type = kind.name.toList ++ '<' :: (inner ++ ['>']) ∧ Balanced inner := by
  unfold body?
  constructor
  · intro h
    obtain ⟨⟨kind', rest⟩, hkind, h⟩ := Option.bind_eq_some_iff.mp h
    obtain ⟨⟨inner', after⟩, hclose, h⟩ := Option.bind_eq_some_iff.mp h
    simp only at h
    split at h
    · next hafter =>
      cases h
      obtain ⟨k, -, hk⟩ := List.exists_of_findSome?_eq_some hkind
      obtain ⟨rest', hrest, hpair⟩ := Option.map_eq_some_iff.mp hk
      cases hpair
      obtain ⟨rfl, hcloses⟩ := (splitAtClose_eq_some_iff _ _ _ 0).mp hclose
      have htype := kind.eq_of_body? _ _ hrest
      -- The type does not end in white space, so that nothing follows its last bracket.
      have hnone : after = [] := by
        apply eq_nil_of_trim_eq_append type (kind.name.toList ++ '<' :: (inner ++ ['>'])) after
        · rw [htype]
          simp
        · exact (trim_eq_nil_iff after).mp (List.isEmpty_iff.mp hafter)
      rw [htype, hnone]
      exact ⟨rfl, (balanced_iff_closes inner).mpr hcloses⟩
    · cases h
  · rintro ⟨htype, hbalanced⟩
    have hclose : splitAtClose 1 (inner ++ ['>']) = some (inner, []) :=
      (splitAtClose_eq_some_iff _ _ _ 0).mpr ⟨rfl, (balanced_iff_closes inner).mp hbalanced⟩
    rw [htype]
    simp only [kind.findSome?_body?, Option.bind_eq_bind, Option.bind_some, hclose]
    rfl

/-- What is read from a body makes up the body again. -/
theorem squeeze_ofBody? (kind : ContainerKind) (inner : List Char) (c : ContainerType)
    (hbalanced : Balanced inner) (h : ofBody? kind inner = some c) :
    squeeze c.text.toList = squeeze (kind.name.toList ++ '<' :: (inner ++ ['>'])) := by
  have hbracket : ∀ cs : List Char, '<' :: (cs ++ ['>']) = "<".toList ++ (cs ++ ">".toList) :=
    fun _ => rfl
  rw [hbracket]
  cases kind with
  | map =>
    obtain ⟨⟨key, element⟩, hcomma, h⟩ := Option.bind_eq_some_iff.mp h
    simp only at h
    split at h
    · cases h
    · cases h
      have hnested : Nested 0 inner := ((balanced_iff_closes inner).mp hbalanced).nested
      obtain ⟨hinner, -, -⟩ := (splitAtComma_eq_some_iff _ _ _ 0 hnested).mp hcomma
      have hcomma : ',' :: element = ",".toList ++ element := rfl
      rw [hinner, hcomma]
      simp only [text, String.toList_append, String.toList_ofList, squeeze_append, squeeze_trim,
        List.append_assoc]
  | list | set =>
    rw [ofBody?] at h
    split at h
    · cases h
    · cases h
      simp only [text, String.toList_append, String.toList_ofList, squeeze_append, squeeze_trim,
        List.append_assoc]
      rfl

/-- **Nothing but white space is lost.** -/
theorem squeeze_text (type : String) (c : ContainerType) (h : parse? type = some c) :
    squeeze c.text.toList = squeeze type.toList := by
  obtain ⟨⟨kind, inner⟩, hbody, h⟩ := Option.bind_eq_some_iff.mp h
  obtain ⟨htype, hbalanced⟩ := (body?_eq_some_iff _ _ _).mp hbody
  rw [squeeze_ofBody? kind inner c hbalanced h, ← squeeze_trim type.toList, htype]

/-- Maps have a key, and only they. -/
theorem isSome_key_iff (type : String) (c : ContainerType) (h : parse? type = some c) :
    c.key.isSome = true ↔ c.kind = .map := by
  obtain ⟨⟨kind, inner⟩, -, h⟩ := Option.bind_eq_some_iff.mp h
  cases kind with
  | map =>
    obtain ⟨⟨key, element⟩, -, h⟩ := Option.bind_eq_some_iff.mp h
    simp only at h
    split at h
    · cases h
    · cases h
      simp
  | list | set =>
    simp only [ofBody?] at h
    split at h
    · cases h
    · cases h
      simp

/-- The element is a proper part of the type. -/
theorem element_ne (type : String) (c : ContainerType) (h : parse? type = some c) :
    c.element ≠ type := by
  intro heq
  have hlen := congrArg List.length (squeeze_text type c h)
  rw [← heq, text] at hlen
  simp only [String.toList_append, squeeze_append, List.length_append] at hlen
  have hbracket : (squeeze "<".toList).length = 1 := by decide
  omega

end ContainerType

end PlayScaffold
