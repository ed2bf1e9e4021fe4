import PlayScaffold.Proofs.ContainerType

/-!
# The grammar of container types

A list or a set is written with its element between brackets, a map with its key and its element,
which the first comma outside all inner brackets keeps apart.  Around each of them white space may
stand.  Exactly this is read (`Written`), and exactly the containers whose parts are balanced,
trimmed and there are ever read (`Readable`).

    parse? type = some c ↔ Written (trim type.toList) c                  (parse?_eq_some_iff)
    c.Readable → parse? (c.spacedText outer key element) = some c        (parse?_spacedText)
-/

namespace PlayScaffold.ContainerType

open Text

/-! ## Commas -/

/-- No comma stands outside all brackets. -/
def Undivided (cs : List Char) : Prop :=
  ∀ before after, cs = before ++ ',' :: after → ¬ Balanced before

theorem undivided_iff_noOuterComma (cs : List Char) : Undivided cs ↔ NoOuterComma 0 cs := by
  unfold Undivided NoOuterComma
  simp only [balanced_iff_closes]

theorem balanced_nil : Balanced [] := (balanced_iff_closes []).mpr ((closes_nil_iff 0).mpr rfl)

theorem comma_not_mem_of_blank (cs : List Char) (h : Blank cs) : ',' ∉ cs := by
  intro hmem
  exact absurd (h ',' hmem) (by decide)

theorem undivided_append (cs back : List Char) (hback : ',' ∉ back) (h : Undivided cs) :
    Undivided (cs ++ back) := by
  intro before after hsplit
  rcases List.append_eq_append_iff.mp hsplit with ⟨middle, -, rfl⟩ | ⟨middle, hcs, hafter⟩
  · exact absurd (List.mem_append_right middle List.mem_cons_self) hback
  · cases middle with
    | nil =>
      rw [List.nil_append] at hafter
      rw [← hafter] at hback
      exact absurd List.mem_cons_self hback
    | cons d middle =>
      obtain ⟨rfl, -⟩ := List.cons.inj hafter
      exact h before middle hcs

theorem undivided_blank_append (front cs : List Char) (hfront : Blank front) (h : Undivided cs) :
    Undivided (front ++ cs) := by
  intro before after hsplit hbefore
  rcases List.append_eq_append_iff.mp hsplit with ⟨middle, rfl, hcs⟩ | ⟨middle, rfl, hcs⟩
  · have hmiddle := balanced_around front middle [] hfront (by simp [Blank])
    rw [List.append_nil] at hmiddle
    exact h middle after hcs (hmiddle.mp hbefore)
  · cases middle with
    | nil => exact h [] after hcs.symm balanced_nil
    | cons d middle =>
      obtain ⟨rfl, -⟩ := List.cons.inj hcs
      exact comma_not_mem_of_blank _ hfront (List.mem_append_right before List.mem_cons_self)

/-- White space at the ends changes nothing about the commas outside. -/
theorem undivided_around (front cs back : List Char) (hfront : Blank front) (hback : Blank back) :
    Undivided (front ++ cs ++ back) ↔ Undivided cs := by
  constructor
  · intro h before after hcs hbefore
    have hpadded := balanced_around front before [] hfront (by simp [Blank])
    rw [List.append_nil] at hpadded
    apply h (front ++ before) (after ++ back)
    · rw [hcs]
      simp
    · exact hpadded.mpr hbefore
  · intro h
    apply undivided_append _ back (comma_not_mem_of_blank back hback)
    exact undivided_blank_append front cs hfront h

theorem undivided_trim (cs : List Char) : Undivided (trim cs) ↔ Undivided cs := by
  obtain ⟨front, back, hfront, hback, hcs⟩ := exists_eq_trim cs
  have hends := undivided_around front (trim cs) back hfront hback
  rw [← hcs] at hends
  exact hends.symm

/-- A comma between two balanced texts makes one of them. -/
theorem balanced_comma_iff (key element : List Char) (hkey : Balanced key) :
    Balanced (key ++ ',' :: element) ↔ Balanced element := by
  rw [balanced_iff_closes] at hkey
  rw [balanced_iff_closes, balanced_iff_closes, closes_append_iff 0 key _ hkey,
    closes_cons_of_ne 0 ',' element (by decide)]

/-! ## The grammar -/

/-- The texts of a container type, without white space at their ends. -/
inductive Written : List Char → ContainerType → Prop where
  /-- a list or a set: all between the brackets is the element -/
  | single (kind : ContainerKind) (inner : List Char) (hkind : kind ≠ .map)
      (hbalanced : Balanced inner) (helement : trim inner ≠ []) :
      Written (kind.name.toList ++ '<' :: (inner ++ ['>']))
        ⟨kind, none, String.ofList (trim inner)⟩
  /-- a map: the first comma outside all inner brackets ends the key -/
  | pair (key element : List Char) (hbalanced : Balanced (key ++ ',' :: element))
      (houtside : Balanced key) (hfirst : Undivided key)
      (hkey : trim key ≠ []) (helement : trim element ≠ []) :
      Written (ContainerKind.map.name.toList ++ '<' :: (key ++ ',' :: element ++ ['>']))
        ⟨.map, some (String.ofList (trim key)), String.ofList (trim element)⟩

/-! ## Reading -/

theorem ofBody?_single_eq_some_iff (kind : ContainerKind) (inner : List Char) (c : ContainerType)
    (hkind : kind ≠ .map) : ofBody? kind inner = some c ↔
      trim inner ≠ [] ∧ c = ⟨kind, none, String.ofList (trim inner)⟩ := by
  have hbody : ofBody? kind inner =
      if (trim inner).isEmpty then none else some ⟨kind, none, String.ofList (trim inner)⟩ := by
    cases kind with
    | map => exact absurd rfl hkind
    | list | set => rfl
  rw [hbody]
  by_cases hempty : trim inner = []
  · simp [hempty]
  · rw [if_neg (by simpa using hempty), Option.some.injEq]
    exact ⟨fun hc => ⟨hempty, hc.symm⟩, fun hc => hc.2.symm⟩

theorem ofBody?_map_eq_some_iff (inner : List Char) (c : ContainerType) (h : Balanced inner) :
    ofBody? .map inner = some c ↔ ∃ key element, inner = key ++ ',' :: element ∧ Balanced key ∧
      Undivided key ∧ trim key ≠ [] ∧ trim element ≠ [] ∧
      c = ⟨.map, some (String.ofList (trim key)), String.ofList (trim element)⟩ := by
  have hsplit := fun before after => splitAtComma_eq_some_iff inner before after 0
    ((balanced_iff_closes inner).mp h).nested
  simp only [← balanced_iff_closes, ← undivided_iff_noOuterComma] at hsplit
  unfold ofBody?
  rw [Option.bind_eq_bind, Option.bind_eq_some_iff]
  constructor
  · rintro ⟨⟨key, element⟩, hcomma, hc⟩
    obtain ⟨hinner, hkey, hfirst⟩ := (hsplit key element).mp hcomma
    by_cases hempty : trim key = [] ∨ trim element = []
    · simp [hempty] at hc
    · obtain ⟨hkeyText, helementText⟩ := not_or.mp hempty
      simp only [List.isEmpty_iff, Bool.or_eq_true, if_neg hempty, Option.some.injEq] at hc
      exact ⟨key, element, hinner, hkey, hfirst, hkeyText, helementText, hc.symm⟩
  · rintro ⟨key, element, hinner, hkey, hfirst, hkeyText, helementText, rfl⟩
    refine ⟨(key, element), (hsplit key element).mpr ⟨hinner, hkey, hfirst⟩, ?_⟩
    simp [hkeyText, helementText]

/-- **What is read is what the grammar says.** -/
theorem parse?_eq_some_iff (type : String) (c : ContainerType) :
    parse? type = some c ↔ Written (trim type.toList) c := by
  unfold parse?
  rw [Option.bind_eq_bind, Option.bind_eq_some_iff]
  constructor
  · rintro ⟨⟨kind, inner⟩, hbody, hc⟩
    obtain ⟨htype, hbalanced⟩ := (body?_eq_some_iff _ _ _).mp hbody
    rw [htype]
    by_cases hkind : kind = .map
    · subst hkind
      obtain ⟨key, element, rfl, hkey, hfirst, hkeyText, helementText, rfl⟩ :=
        (ofBody?_map_eq_some_iff inner c hbalanced).mp hc
      exact .pair key element hbalanced hkey hfirst hkeyText helementText
    · obtain ⟨helement, rfl⟩ := (ofBody?_single_eq_some_iff kind inner c hkind).mp hc
      exact .single kind inner hkind hbalanced helement
  · intro h
    generalize htype : trim type.toList = text at h
    cases h with
    | single kind inner hkind hbalanced helement =>
      exact ⟨(kind, inner), (body?_eq_some_iff _ _ _).mpr ⟨htype, hbalanced⟩,
        (ofBody?_single_eq_some_iff kind inner _ hkind).mpr ⟨helement, rfl⟩⟩
    | pair key element hbalanced houtside hfirst hkey helement =>
      exact ⟨(.map, key ++ ',' :: element), (body?_eq_some_iff _ _ _).mpr ⟨htype, hbalanced⟩,
        (ofBody?_map_eq_some_iff _ _ hbalanced).mpr
          ⟨key, element, rfl, houtside, hfirst, hkey, helement, rfl⟩⟩

/-! ## What can be read -/

/-- A text that is there, balanced and trimmed. -/
structure IsPart (s : String) : Prop where
  balanced : Balanced s.toList
  trimmed : trim s.toList = s.toList
  nonempty : s.toList ≠ []

theorem isPart_trim (cs : List Char) (h : Balanced cs) (hne : trim cs ≠ []) :
    IsPart (String.ofList (trim cs)) := by
  refine ⟨?_, ?_, ?_⟩
  · rw [String.toList_ofList]
    exact (balanced_trim cs).mpr h
  · rw [String.toList_ofList, trim_trim]
  · rw [String.toList_ofList]
    exact hne

/-- Containers with parts, and with a key where they are maps. -/
inductive Readable : ContainerType → Prop where
  | single (kind : ContainerKind) (element : String) (hkind : kind ≠ .map)
      (helement : IsPart element) : Readable ⟨kind, none, element⟩
  | pair (key element : String) (hkey : IsPart key) (hundivided : Undivided key.toList)
      (helement : IsPart element) : Readable ⟨.map, some key, element⟩

theorem Written.readable (text : List Char) (c : ContainerType) (h : Written text c) :
    c.Readable := by
  cases h with
  | single kind inner hkind hbalanced helement =>
    exact .single kind _ hkind (isPart_trim inner hbalanced helement)
  | pair key element hbalanced houtside hfirst hkey helement =>
    have helementBalanced := (balanced_comma_iff key element houtside).mp hbalanced
    refine .pair _ _ (isPart_trim key houtside hkey) ?_
      (isPart_trim element helementBalanced helement)
    rw [String.toList_ofList]
    exact (undivided_trim key).mpr hfirst

/-! ## Writing -/

/-- White space before and after a text. -/
structure Margins where
  before : String
  after : String
  before_blank : Blank before.toList
  after_blank : Blank after.toList

namespace Margins

def around (m : Margins) (s : String) : String := m.before ++ s ++ m.after

theorem toList_around (m : Margins) (s : String) :
    (m.around s).toList = m.before.toList ++ s.toList ++ m.after.toList := by
  rw [around, String.toList_append, String.toList_append]

theorem trim_around (m : Margins) (s : String) : trim (m.around s).toList = trim s.toList := by
  rw [toList_around, trim_append _ _ _ m.before_blank m.after_blank]

theorem balanced_around_iff (m : Margins) (s : String) :
    Balanced (m.around s).toList ↔ Balanced s.toList := by
  rw [toList_around, balanced_around _ _ _ m.before_blank m.after_blank]

theorem undivided_around_iff (m : Margins) (s : String) :
    Undivided (m.around s).toList ↔ Undivided s.toList := by
  rw [toList_around, undivided_around _ _ _ m.before_blank m.after_blank]

end Margins

/-- The type as it is written, with margins around it and around its parts. -/
def spacedText (c : ContainerType) (outer key element : Margins) : String :=
  let front := match c.key with
    | some k => key.around k ++ ","
    | none => ""
  outer.around (c.kind.name ++ "<" ++ (front ++ element.around c.element) ++ ">")

/-- A container's name and brackets leave nothing to trim. -/
theorem trim_bracketed (kind : ContainerKind) (inner : List Char) :
    trim (kind.name.toList ++ '<' :: (inner ++ ['>'])) =
      kind.name.toList ++ '<' :: (inner ++ ['>']) := by
  cases kind with
  | list => exact trim_of_ends 'L' '>' ("ist<".toList ++ inner) (by decide) (by decide)
  | map => exact trim_of_ends 'M' '>' ("ap<".toList ++ inner) (by decide) (by decide)
  | set => exact trim_of_ends 'S' '>' ("et<".toList ++ inner) (by decide) (by decide)

theorem trim_spaced (kind : ContainerKind) (outer : Margins) (inner : String) :
    trim (outer.around (kind.name ++ "<" ++ inner ++ ">")).toList =
      kind.name.toList ++ '<' :: (inner.toList ++ ['>']) := by
  have hlist : (kind.name ++ "<" ++ inner ++ ">").toList =
      kind.name.toList ++ '<' :: (inner.toList ++ ['>']) := by
    simp [String.toList_append]
  rw [outer.trim_around, hlist, trim_bracketed]

/-- **A container is read back from its text**, whatever white space stands around its parts. -/
theorem parse?_spacedText (c : ContainerType) (h : c.Readable) (outer key element : Margins) :
    parse? (c.spacedText outer key element) = some c := by
  rw [parse?_eq_some_iff]
  cases h with
  | single kind e hkind he =>
    have htext : trim (spacedText ⟨kind, none, e⟩ outer key element).toList =
        kind.name.toList ++ '<' :: ((element.around e).toList ++ ['>']) := by
      rw [spacedText, trim_spaced]
      simp
    have hpart : trim (element.around e).toList = e.toList := by
      rw [element.trim_around, he.trimmed]
    have hwritten := Written.single kind (element.around e).toList hkind
      ((element.balanced_around_iff e).mpr he.balanced) (by rw [hpart]; exact he.nonempty)
    rw [hpart, String.ofList_toList] at hwritten
    rw [htext]
    exact hwritten
  | pair k e hk hundivided he =>
    have htext : trim (spacedText ⟨.map, some k, e⟩ outer key element).toList =
        ContainerKind.map.name.toList ++
          '<' :: ((key.around k).toList ++ ',' :: (element.around e).toList ++ ['>']) := by
      rw [spacedText, trim_spaced]
      simp [String.toList_append]
    have hkeyPart : trim (key.around k).toList = k.toList := by
      rw [key.trim_around, hk.trimmed]
    have hpart : trim (element.around e).toList = e.toList := by
      rw [element.trim_around, he.trimmed]
    have houtside := (key.balanced_around_iff k).mpr hk.balanced
    have hbalanced := (balanced_comma_iff (key.around k).toList (element.around e).toList
      houtside).mpr ((element.balanced_around_iff e).mpr he.balanced)
    have hwritten := Written.pair (key.around k).toList (element.around e).toList hbalanced houtside
      ((key.undivided_around_iff k).mpr hundivided) (by rw [hkeyPart]; exact hk.nonempty)
      (by rw [hpart]; exact he.nonempty)
    rw [hkeyPart, hpart, String.ofList_toList, String.ofList_toList] at hwritten
    rw [htext]
    exact hwritten

/-! ## Grammar and reader -/

/-- **Exactly the grammar is read.**  What is read has balanced parts, and a key without commas
outside its brackets; and every container with such parts is read back from its text. -/
theorem parse?_iff_written (c : ContainerType) :
    (∀ type, parse? type = some c ↔ Written (trim type.toList) c) ∧
    (∀ type, parse? type = some c → c.Readable) ∧
    (c.Readable → ∀ outer key element : Margins,
      parse? (c.spacedText outer key element) = some c) := by
  refine ⟨fun type => parse?_eq_some_iff type c, ?_, parse?_spacedText c⟩
  intro type h
  exact ((parse?_eq_some_iff type c).mp h).readable

/-- A map from maps to lists of sets, first without white space and then with some around it and
around its parts. -/
theorem parse?_iff_written_nested :
    ∃ c : ContainerType, parse? "Map<Map<A,B>,List<Set<C>>>" = some c ∧ c.Readable ∧
      c.key = some "Map<A,B>" ∧ c.element = "List<Set<C>>" ∧
      parse? "\tMap< Map<A,B> ,  List<Set<C>>\n> " = some c := by
  have hread : parse? "Map<Map<A,B>,List<Set<C>>>" =
      some ⟨.map, some "Map<A,B>", "List<Set<C>>"⟩ := by rfl
  have hreadable := (parse?_iff_written _).2.1 _ hread
  refine ⟨_, hread, hreadable, rfl, rfl, ?_⟩
  exact (parse?_iff_written _).2.2 hreadable ⟨"\t", " ", by decide, by decide⟩
    ⟨" ", " ", by decide, by decide⟩ ⟨"  ", "\n", by decide, by decide⟩

end PlayScaffold.ContainerType
