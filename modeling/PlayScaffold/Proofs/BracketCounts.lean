import PlayScaffold.Proofs.ContainerType

/-!
# Bracket counts are never clipped

Both scanners count open brackets in natural numbers, where a count of none would stay at none if a
bracket closed.  That never happens: the first scanner stops at the bracket that brings its count to
none, and the second one is given only what the first one has found balanced.

    Unclipped splitAtClose 1 cs                                          (unclipped_splitAtClose)
    body? type = some (kind, inner) → Unclipped splitAtComma 0 inner     (unclipped_splitAtComma)

So a scanner that counts in integers, and fails as soon as its count is negative, gives the same
answers; it fails on exactly the texts on which the count is clipped.

    splitStrictly stops depth cs = .ok (splitWhere stops depth cs) ↔
      Unclipped (splitWhere stops) depth cs                              (splitStrictly_eq_ok_iff)
-/

namespace PlayScaffold.ContainerType

open Text

/-! ## Scanning -/

/-- The number of open brackets behind a text, `depth` of which are open in front of it. -/
def depthAfter (depth : Nat) (cs : List Char) : Nat := cs.foldl depthBehind depth

/-- The text before and after the first character at which `stops`, which is told the number of open
brackets. -/
def splitWhere (stops : Int → Char → Bool) (depth : Nat) :
    List Char → Option (List Char × List Char)
  | [] => none
  | c :: rest =>
    if stops depth c then some ([], rest)
    else (splitWhere stops (depthBehind depth c) rest).map fun (before, after) =>
      (c :: before, after)

def closesLast (depth : Int) (c : Char) : Bool := c == '>' && depth ≤ 1

/-- Is `c` a comma outside all brackets? -/
def dividesOutside (depth : Int) (c : Char) : Bool := c == ',' && depth == 0

theorem splitAtClose_eq_splitWhere : splitAtClose = splitWhere closesLast := by
  funext depth cs
  induction cs generalizing depth with
  | nil => rfl
  | cons c rest ih =>
    have hstop : (c = '>' ∧ depth - 1 = 0) ↔ closesLast depth c = true := by
      simp only [closesLast, Bool.and_eq_true, beq_iff_eq, decide_eq_true_eq]
      exact and_congr_right fun _ => by omega
    rw [splitAtClose_cons, splitWhere, ih]
    simp only [hstop]

theorem splitAtComma_eq_splitWhere : splitAtComma = splitWhere dividesOutside := by
  funext depth cs
  induction cs generalizing depth with
  | nil => rfl
  | cons c rest ih =>
    have hstop : (c = ',' ∧ depth = 0) ↔ dividesOutside depth c = true := by
      simp [dividesOutside]
    rw [splitAtComma_cons, splitWhere, ih]
    simp only [hstop]

section SplitWhere

variable (stops : Int → Char → Bool) (depth : Nat) (c : Char) (cs : List Char)

theorem splitWhere_cons_eq_none_iff : splitWhere stops depth (c :: cs) = none ↔
    stops depth c = false ∧ splitWhere stops (depthBehind depth c) cs = none := by
  rw [splitWhere]
  split
  · next h => simp [h]
  · next h => simp [h]

/-- A scanner that has gone through a text goes on behind it with the brackets that are open
there. -/
theorem splitWhere_append (front : List Char) (h : splitWhere stops depth front = none) :
    splitWhere stops depth (front ++ cs) =
      (splitWhere stops (depthAfter depth front) cs).map fun (before, after) =>
        (front ++ before, after) := by
  induction front generalizing depth with
  | nil =>
    rw [List.nil_append]
    exact Option.map_id'.symm
  | cons c front ih =>
    obtain ⟨hstop, hfront⟩ := (splitWhere_cons_eq_none_iff stops depth c front).mp h
    rw [List.cons_append, splitWhere, if_neg (by simp [hstop]), ih _ hfront, Option.map_map]
    rfl

end SplitWhere

/-! ## Counts that are not clipped -/

/-- Wherever the scanner comes to a closing bracket, one is open: it goes on from there with
`depthAfter`, which is not zero. -/
def Unclipped (split : Nat → List Char → Option (List Char × List Char)) (depth : Nat)
    (cs : List Char) : Prop :=
  ∀ front back, cs = front ++ '>' :: back → split depth front = none →
    split depth cs = ((split (depthAfter depth front) ('>' :: back)).map fun (before, after) =>
      (front ++ before, after)) ∧ 1 ≤ depthAfter depth front

section Unclipped

variable (stops : Int → Char → Bool) (depth : Nat) (c : Char) (cs : List Char)

theorem unclipped_iff : Unclipped (splitWhere stops) depth cs ↔ ∀ front back,
    cs = front ++ '>' :: back → splitWhere stops depth front = none →
      1 ≤ depthAfter depth front := by
  constructor
  · intro h front back hcs hfront
    exact (h front back hcs hfront).2
  · intro h front back hcs hfront
    refine ⟨?_, h front back hcs hfront⟩
    rw [hcs]
    exact splitWhere_append stops depth _ front hfront

theorem unclipped_nil : Unclipped (splitWhere stops) depth [] := by
  intro front back hcs
  cases front <;> cases hcs

/-- One step of a scanner. -/
theorem unclipped_cons_iff : Unclipped (splitWhere stops) depth (c :: cs) ↔
    (c = '>' → 1 ≤ depth) ∧
      (stops depth c = false → Unclipped (splitWhere stops) (depthBehind depth c) cs) := by
  simp only [unclipped_iff]
  constructor
  · intro h
    refine ⟨?_, fun hstop front back hcs hfront => ?_⟩
    · rintro rfl
      exact h [] cs rfl rfl
    · refine h (c :: front) back ?_ ?_
      · rw [hcs]
        rfl
      · exact (splitWhere_cons_eq_none_iff stops depth c front).mpr ⟨hstop, hfront⟩
  · rintro ⟨hfirst, hrest⟩ front back hcs hfront
    cases front with
    | nil => exact hfirst (List.cons.inj hcs).1
    | cons d front =>
      obtain ⟨rfl, htail⟩ := List.cons.inj hcs
      obtain ⟨hstop, hfront⟩ := (splitWhere_cons_eq_none_iff stops depth c front).mp hfront
      exact hrest hstop front back htail hfront

/-- No scanner is clipped on a nested text, wherever it stops. -/
theorem unclipped_of_nested (h : Nested depth cs) : Unclipped (splitWhere stops) depth cs := by
  induction cs generalizing depth with
  | nil => exact unclipped_nil stops depth
  | cons c cs ih =>
    obtain ⟨hopen, hrest⟩ := (nested_cons_iff depth c cs).mp h
    exact (unclipped_cons_iff stops depth c cs).mpr ⟨hopen, fun _ => ih _ hrest⟩

end Unclipped

/-- While the first scanner goes on, a bracket is open. -/
theorem unclipped_splitAtClose (cs : List Char) (depth : Nat) (h : 1 ≤ depth) :
    Unclipped splitAtClose depth cs := by
  rw [splitAtClose_eq_splitWhere]
  induction cs generalizing depth with
  | nil => exact unclipped_nil closesLast depth
  | cons c cs ih =>
    refine (unclipped_cons_iff closesLast depth c cs).mpr ⟨fun _ => h, fun hstop => ih _ ?_⟩
    simp only [closesLast, Bool.and_eq_false_iff, beq_eq_false_iff_ne, decide_eq_false_iff_not]
      at hstop
    unfold depthBehind
    split
    · omega
    · split
      · next hclose =>
        have := hstop.resolve_left (not_not_intro hclose)
        omega
      · exact h

/-- The second scanner is given what is balanced. -/
theorem unclipped_splitAtComma (type : List Char) (kind : ContainerKind) (inner : List Char)
    (h : body? type = some (kind, inner)) : Unclipped splitAtComma 0 inner := by
  have hbalanced := ((body?_eq_some_iff type kind inner).mp h).2
  rw [splitAtComma_eq_splitWhere]
  exact unclipped_of_nested dividesOutside 0 inner ((balanced_iff_closes inner).mp hbalanced).nested

/-! ## Counting in integers -/

/-- A bracket that closes though none is open, and the text behind it. -/
structure Unopened where
  behind : List Char
deriving Repr, DecidableEq

/-- The number of open brackets behind a character, negative where too many are closed. -/
def balanceBehind (balance : Int) (c : Char) : Int :=
  if c = '<' then balance + 1 else if c = '>' then balance - 1 else balance

/-- As `splitWhere`, but fails as soon as the count is negative. -/
def splitStrictly (stops : Int → Char → Bool) (balance : Int) :
    List Char → Except Unopened (Option (List Char × List Char))
  | [] => .ok none
  | c :: rest =>
    if balanceBehind balance c < 0 then .error ⟨rest⟩
    else if stops balance c then .ok (some ([], rest))
    else (splitStrictly stops (balanceBehind balance c) rest).map
      (Option.map fun (before, after) => (c :: before, after))

/-- Both counts are the same as long as none is clipped. -/
theorem balanceBehind_eq (depth : Nat) (c : Char) (h : c = '>' → 1 ≤ depth) :
    balanceBehind depth c = depthBehind depth c := by
  unfold balanceBehind depthBehind
  split
  · rfl
  · split
    · next hclose =>
      have := h hclose
      omega
    · rfl

theorem map_eq_ok_map_iff (c : Char) (result : Except Unopened (Option (List Char × List Char)))
    (split : Option (List Char × List Char)) :
    result.map (Option.map fun (before, after) => (c :: before, after)) =
        .ok (split.map fun (before, after) => (c :: before, after)) ↔ result = .ok split := by
  have hinjective : Function.Injective fun (p : List Char × List Char) => (c :: p.1, p.2) := by
    rintro ⟨before, after⟩ ⟨before', after'⟩ h
    simpa using h
  cases result with
  | error e => simp [Except.map]
  | ok found => simp only [Except.map, Except.ok.injEq, (Option.map_injective hinjective).eq_iff]

/-- **Counting in integers makes no difference** exactly where the count is not clipped. -/
theorem splitStrictly_eq_ok_iff (stops : Int → Char → Bool) (depth : Nat) (cs : List Char) :
    splitStrictly stops depth cs = .ok (splitWhere stops depth cs) ↔
      Unclipped (splitWhere stops) depth cs := by
  induction cs generalizing depth with
  | nil => exact iff_of_true rfl (unclipped_nil stops depth)
  | cons c cs ih =>
    rw [unclipped_cons_iff, splitStrictly, splitWhere]
    by_cases hopen : c = '>' → 1 ≤ depth
    · rw [balanceBehind_eq depth c hopen, if_neg (by omega), and_iff_right hopen, ← ih]
      by_cases hstop : stops depth c = true
      · simp [hstop]
      · rw [if_neg hstop, if_neg hstop, map_eq_ok_map_iff]
        simp [hstop]
    · have hnegative : balanceBehind depth c < 0 := by
        obtain ⟨rfl, hzero⟩ := Classical.not_imp.mp hopen
        rw [balanceBehind, if_neg (by decide), if_pos rfl]
        omega
      rw [if_pos hnegative]
      exact iff_of_false (by simp) fun h => hopen h.1

/-- Where the count is clipped, a comma may be found that stands behind too many brackets. -/
example : splitAtComma 0 "A>,B".toList = some ("A>".toList, "B".toList) ∧
    splitStrictly dividesOutside 0 "A>,B".toList = .error ⟨",B".toList⟩ := by decide

/-- **The bracket counts are never clipped**: not the first one, on any text, and not the second
one, on any text that the first one has passed on.  Both scanners answer as those that count in
integers and fail at a negative count. -/
theorem counts_never_clipped :
    (∀ cs, Unclipped splitAtClose 1 cs ∧
      splitStrictly closesLast 1 cs = .ok (splitAtClose 1 cs)) ∧
    ∀ (type : String) (kind : ContainerKind) (inner : List Char),
      body? type.toList = some (kind, inner) → Unclipped splitAtComma 0 inner ∧
        splitStrictly dividesOutside 0 inner = .ok (splitAtComma 0 inner) := by
  refine ⟨fun cs => ?_, fun type kind inner h => ?_⟩
  · have hclose := unclipped_splitAtClose cs 1 (Nat.le_refl 1)
    refine ⟨hclose, ?_⟩
    rw [splitAtClose_eq_splitWhere] at hclose ⊢
    exact (splitStrictly_eq_ok_iff closesLast 1 cs).mpr hclose
  · have hcomma := unclipped_splitAtComma type.toList kind inner h
    refine ⟨hcomma, ?_⟩
    rw [splitAtComma_eq_splitWhere] at hcomma ⊢
    exact (splitStrictly_eq_ok_iff dividesOutside 0 inner).mpr hcomma

/-- A map of maps: its second scan passes two closing brackets, each with one open. -/
theorem counts_never_clipped_nested :
    body? "Map<Map<A,B>,List<Set<C>>>".toList = some (.map, "Map<A,B>,List<Set<C>>".toList) ∧
    splitStrictly dividesOutside 0 "Map<A,B>,List<Set<C>>".toList =
      .ok (some ("Map<A,B>".toList, "List<Set<C>>".toList)) := by
  have hbody : body? "Map<Map<A,B>,List<Set<C>>>".toList =
      some (.map, "Map<A,B>,List<Set<C>>".toList) := by rfl
  refine ⟨hbody, ?_⟩
  exact (counts_never_clipped.2 "Map<Map<A,B>,List<Set<C>>>" .map _ hbody).2.trans (by rfl)

end PlayScaffold.ContainerType
