import PlayScaffold.Error
import PlayScaffold.Options.Basic
import PlayScaffold.Proofs.ByteOrder
import PlayScaffold.Proofs.ReadBack

/-!
# Options over defaults

Options are read from a map of properties, one known key after the other.  A step changes the option
that it reads and no other, and the keys of a map are distinct, so in the end every option is what
the map says, or its default where the map says nothing:

    ofProperties m = .ok o → Overlays m o.templateProperties      (overlays_of_ofProperties)

Keys ascend, so the first step that fails is the one whose key comes first in UTF-8:

    ofProperties m = .error e ↔
      ∃ key v, FirstUnusable m key v ∧ e = complaint key v        (ofProperties_error_iff)

What is written is read back, for it is usable and leaves nothing to the defaults.
-/

namespace PlayScaffold

/-- What a value is, in a message that wanted another one. -/
def Json.found : Json → Found
  | .null => .null
  | .bool b => .bool b
  | .num n => .number n
  | .str s => .string s
  | .arr _ => .sequence
  | .obj _ => .map

namespace Options

/-! ## What may be given -/

/-- The options that are names or packages. -/
def textNames : List String :=
  ["title", "configPackage", "basePackage", "apiPackage", "modelPackage"]

def flagNames : List String :=
  ["controllerOnly", "useInterfaces", "handleExceptions", "wrapCalls", "useSwaggerUI",
    "supportAsync", "useBeanValidation"]

/-- The documented defaults. -/
def documented : List (String × Json) :=
  [("title", .str "openapi-java-playframework"),
    ("configPackage", .str "org.openapitools.configuration"),
    ("basePackage", .str "org.openapitools"), ("apiPackage", .str "controllers"),
    ("modelPackage", .str "apimodels"), ("controllerOnly", .bool false),
    ("useInterfaces", .bool true), ("handleExceptions", .bool true), ("wrapCalls", .bool true),
    ("useSwaggerUI", .bool true), ("supportAsync", .bool false),
    ("useBeanValidation", .bool true)]

/-- A value stands for a truth value: it is that value, or a text that is the word for it but for
case and the white space around it. -/
def StandsFor (v : Json) (b : Bool) : Prop :=
  v = .bool b ∨ ∃ s, v = .str s ∧
    String.ofList (Text.lowerAscii (Text.trim s.toList)) = if b then "true" else "false"

/-- What may be given at a key: a text for a name or a package, something that stands for a truth
value for a flag, and anything at a key that is no option. -/
def Usable (key : String) (v : Json) : Prop :=
  (key ∈ textNames → ∃ s, v = .str s) ∧ (key ∈ flagNames → ∃ b, StandsFor v b)

/-- What is wrong with a value that stands for no truth value. -/
def notFlag : Json → ReadError
  | .str s => .notBoolean s
  | _ => .noFlag

/-- What is wrong with a value that is not usable. -/
def complaint (key : String) (v : Json) : ReadError :=
  if key ∈ textNames then .wrongType v.found "a string" else notFlag v

variable {key : String}

theorem mem_names_iff : key ∈ names ↔ key ∈ textNames ∨ key ∈ flagNames :=
  List.mem_append (s := textNames) (t := flagNames)

theorem not_mem_flagNames (h : key ∈ textNames) : key ∉ flagNames := by
  revert key
  decide

theorem usable_of_not_mem_names (h : key ∉ names) (v : Json) : Usable key v := by
  rw [mem_names_iff, not_or] at h
  exact ⟨fun htext => absurd htext h.1, fun hflag => absurd hflag h.2⟩

theorem mem_names_of_not_usable {v : Json} (h : ¬ Usable key v) : key ∈ names := by
  by_contra hother
  exact h (usable_of_not_mem_names hother v)

/-! ## One value -/

theorem string_eq_error_iff (v : Json) (e : ReadError) :
    Reading.string v = .error e ↔ (¬ ∃ s, v = .str s) ∧ e = .wrongType v.found "a string" := by
  cases v <;>
    simp [Reading.string, Reading.refuse, Document.shape, Shape.found, Json.found, eq_comm]

theorem flagOfText?_eq_some_iff (s : String) (b : Bool) :
    Reading.flagOfText? s = some b ↔
      String.ofList (Text.lowerAscii (Text.trim s.toList)) = if b then "true" else "false" := by
  unfold Reading.flagOfText?
  simp only
  generalize String.ofList (Text.lowerAscii (Text.trim s.toList)) = word
  by_cases htrue : word = "true"
  · subst htrue
    cases b <;> simp
  · by_cases hfalse : word = "false"
    · subst hfalse
      cases b <;> simp
    · cases b <;> simp [htrue, hfalse]

theorem flag_str (s : String) :
    Reading.flag (Json.str s) = (Reading.flagOfText? s).elim (.error (.notBoolean s)) .ok := by
  have hjson : Reading.json (Json.str s) = .ok (.str s) := rfl
  rw [Reading.flag, bind_of_ok hjson]
  simp only
  cases Reading.flagOfText? s <;> rfl

theorem flag_eq_ok_iff (v : Json) (b : Bool) : Reading.flag v = .ok b ↔ StandsFor v b := by
  cases v with
  | bool c =>
    show Except.ok c = .ok b ↔ _
    simp [StandsFor]
  | str s =>
    rw [flag_str, StandsFor]
    simp only [reduceCtorEq, false_or, Json.str.injEq, exists_eq_left', ← flagOfText?_eq_some_iff]
    cases Reading.flagOfText? s <;> simp
  | _ =>
    show Except.error ReadError.noFlag = .ok b ↔ _
    simp [StandsFor]

theorem flag_eq_error_iff (v : Json) (e : ReadError) :
    Reading.flag v = .error e ↔ (¬ ∃ b, StandsFor v b) ∧ e = notFlag v := by
  simp only [← flag_eq_ok_iff]
  cases v with
  | bool c =>
    show Except.ok c = .error e ↔ (¬ ∃ b, Except.ok c = .ok b) ∧ _
    simp
  | str s =>
    rw [flag_str, notFlag]
    cases Reading.flagOfText? s <;> simp [eq_comm]
  | _ =>
    show Except.error ReadError.noFlag = .error e ↔
      (¬ ∃ b, Except.error ReadError.noFlag = .ok b) ∧ e = .noFlag
    simp [eq_comm]

/-- The property that the value given for an option becomes. -/
def readProperty (key : String) (v : Json) : Except ReadError Json :=
  if key ∈ flagNames then Json.bool <$> Reading.flag v else Json.str <$> Reading.string v

theorem readProperty_text (h : key ∈ textNames) (s : String) :
    readProperty key (.str s) = .ok (.str s) := by
  rw [readProperty, if_neg (not_mem_flagNames h)]
  rfl

theorem readProperty_flag (h : key ∈ flagNames) {v : Json} {b : Bool} (hv : StandsFor v b) :
    readProperty key v = .ok (.bool b) := by
  rw [readProperty, if_pos h, (flag_eq_ok_iff v b).mpr hv]
  rfl

/-- A value that is not usable is refused, and no other one is. -/
theorem readProperty_eq_error_iff (hkey : key ∈ names) (v : Json) (e : ReadError) :
    readProperty key v = .error e ↔ ¬ Usable key v ∧ e = complaint key v := by
  unfold readProperty Usable complaint
  by_cases htext : key ∈ textNames
  · have hflag : key ∉ flagNames := not_mem_flagNames htext
    rw [if_neg hflag, if_pos htext, map_eq_error_iff, string_eq_error_iff]
    simp [htext, hflag]
  · have hflag : key ∈ flagNames := (mem_names_iff.mp hkey).resolve_left htext
    rw [if_pos hflag, if_neg htext, map_eq_error_iff, flag_eq_error_iff]
    simp [htext, hflag]

theorem usable_iff_exists_readProperty (hkey : key ∈ names) (v : Json) :
    Usable key v ↔ ∃ j, readProperty key v = .ok j := by
  have herror := readProperty_eq_error_iff hkey v
  cases hread : readProperty key v with
  | ok j =>
    rw [hread] at herror
    refine iff_of_true ?_ ⟨j, rfl⟩
    by_contra hnot
    cases (herror _).mpr ⟨hnot, rfl⟩
  | error e =>
    refine iff_of_false ((herror e).mp hread).1 ?_
    rintro ⟨j, hj⟩
    cases hj

/-! ## One option -/

def overwrite (key : String) (value : Json) (entries : List (String × Json)) :
    List (String × Json) :=
  entries.map fun e => (e.1, if e.1 = key then value else e.2)

theorem lookup_overwrite (key : String) (value : Json) (entries : List (String × Json))
    (k : String) : (overwrite key value entries).lookup k =
      (entries.lookup k).map fun v => if k = key then value else v := by
  induction entries with
  | nil => rfl
  | cons e rest ih =>
    obtain ⟨l, v⟩ := e
    rw [overwrite, List.map_cons, List.lookup_cons, List.lookup_cons]
    by_cases hk : k = l
    · subst hk
      simp
    · rw [beq_eq_false_iff_ne.mpr hk]
      exact ih

theorem lookup_text (o : Options) (h : key ∈ textNames) :
    ∃ s, o.properties.lookup key = some (.str s) := by
  simp only [textNames, List.mem_cons, List.not_mem_nil, or_false] at h
  rcases h with rfl | rfl | rfl | rfl | rfl <;> exact ⟨_, rfl⟩

theorem lookup_flag (o : Options) (h : key ∈ flagNames) :
    ∃ b, o.properties.lookup key = some (.bool b) := by
  simp only [flagNames, List.mem_cons, List.not_mem_nil, or_false] at h
  rcases h with rfl | rfl | rfl | rfl | rfl | rfl | rfl <;> exact ⟨_, rfl⟩

theorem exists_lookup_properties (o : Options) (h : key ∈ names) :
    ∃ v, o.properties.lookup key = some v := by
  rcases mem_names_iff.mp h with htext | hflag
  · obtain ⟨s, hs⟩ := o.lookup_text htext
    exact ⟨_, hs⟩
  · obtain ⟨b, hb⟩ := o.lookup_flag hflag
    exact ⟨_, hb⟩

/-- The reader and the writer agree on the names: what is read under one of them is written under
it, and nothing else is changed. -/
theorem properties_set (o : Options) (key : String) (hkey : key ∈ names)
    (text : Except ReadError String) (flag : Except ReadError Bool) :
    properties <$> o.set text flag key =
      (fun j => overwrite key j o.properties) <$>
        (if key ∈ flagNames then Json.bool <$> flag else Json.str <$> text) := by
  simp only [names, List.mem_cons, List.not_mem_nil, or_false] at hkey
  rcases hkey with rfl | rfl | rfl | rfl | rfl | rfl | rfl | rfl | rfl | rfl | rfl | rfl
  all_goals
    cases text <;> cases flag <;> rfl

/-- The options with the value given at a key read. -/
def step (o : Options) (f : String × Json) : Except ReadError Options :=
  o.set (Reading.string f.2) (Reading.flag f.2) f.1

theorem properties_step (o : Options) (hkey : key ∈ names) (v : Json) :
    properties <$> o.step (key, v) =
      (fun j => overwrite key j o.properties) <$> readProperty key v :=
  o.properties_set key hkey (Reading.string v) (Reading.flag v)

theorem step_error_iff (o : Options) (hkey : key ∈ names) (v : Json) (e : ReadError) :
    o.step (key, v) = .error e ↔ readProperty key v = .error e := by
  rw [← map_eq_error_iff (o.step (key, v)) properties, o.properties_step hkey, map_eq_error_iff]

/-- A step changes the option that it reads and no other. -/
theorem step_ok (o after : Options) (hkey : key ∈ names) (v : Json)
    (h : o.step (key, v) = .ok after) :
    ∃ j, readProperty key v = .ok j ∧ after.properties.lookup key = some j ∧
      ∀ k, k ≠ key → after.properties.lookup k = o.properties.lookup k := by
  have hstep := o.properties_step hkey v
  rw [h] at hstep
  obtain ⟨j, hj, hafter⟩ := (map_eq_ok_iff _ _ _).mp hstep.symm
  refine ⟨j, hj, ?_, fun k hk => ?_⟩
  · obtain ⟨old, hold⟩ := o.exists_lookup_properties hkey
    rw [← hafter, lookup_overwrite, hold]
    simp
  · rw [← hafter, lookup_overwrite]
    simp [hk]

/-! ## One option after the other -/

/-- What has been read stays: the keys are distinct, so no later step comes back to it. -/
theorem lookup_of_foldlM_step (fields : List (String × Json)) :
    ∀ o after : Options, (fields.map (·.1)).Nodup → (∀ f ∈ fields, f.1 ∈ names) →
      fields.foldlM step o = .ok after →
      (∀ f ∈ fields, ∃ j, readProperty f.1 f.2 = .ok j ∧
        after.properties.lookup f.1 = some j) ∧
      ∀ k, k ∉ fields.map (·.1) → after.properties.lookup k = o.properties.lookup k := by
  induction fields with
  | nil =>
    intro o after _ _ h
    rw [← Except.ok.inj h]
    exact ⟨by simp, fun k _ => rfl⟩
  | cons f rest ih =>
    intro o after hnodup hnames h
    obtain ⟨key, v⟩ := f
    obtain ⟨hnew, hrest⟩ := List.nodup_cons.mp hnodup
    obtain ⟨hkey, hlater⟩ := List.forall_mem_cons.mp hnames
    rw [List.foldlM_cons] at h
    obtain ⟨next, hnext, h⟩ := (bind_eq_ok_iff _ _ _).mp h
    obtain ⟨j, hj, hhere, hothers⟩ := o.step_ok next hkey v hnext
    obtain ⟨hread, hkept⟩ := ih next after hrest hlater h
    refine ⟨List.forall_mem_cons.mpr ⟨⟨j, hj, ?_⟩, hread⟩, fun k hk => ?_⟩
    · rw [hkept key hnew, hhere]
    · rw [List.map_cons, List.mem_cons, not_or] at hk
      rw [hkept k hk.2, hothers k hk.1]

/-- The first value that cannot be read decides the error. -/
theorem foldlM_step_error_iff (fields : List (String × Json)) (e : ReadError) :
    ∀ o : Options, (∀ f ∈ fields, f.1 ∈ names) →
      (fields.foldlM step o = .error e ↔ ∃ before f after, fields = before ++ f :: after ∧
        (∀ g ∈ before, Usable g.1 g.2) ∧ readProperty f.1 f.2 = .error e) := by
  induction fields with
  | nil => simp [pure, Except.pure]
  | cons f rest ih =>
    intro o hnames
    obtain ⟨key, v⟩ := f
    obtain ⟨hkey, hlater⟩ := List.forall_mem_cons.mp hnames
    rw [exists_split_cons_iff, List.foldlM_cons]
    simp only [List.forall_mem_cons]
    cases hstep : o.step (key, v) with
    | error e' =>
      have hread := (o.step_error_iff hkey v e').mp hstep
      have hnot := ((readProperty_eq_error_iff hkey v e').mp hread).1
      simp [hread, hnot, bind, Except.bind]
    | ok next =>
      obtain ⟨j, hj, -⟩ := o.step_ok next hkey v hstep
      have husable := (usable_iff_exists_readProperty hkey v).mpr ⟨j, hj⟩
      show rest.foldlM step next = .error e ↔ _
      rw [ih next hlater]
      simp [hj, husable]

/-! ## Maps of properties -/

theorem ofProperties_eq (m : KeyMap Json) :
    ofProperties m = (form.known m.entries).foldlM step {} :=
  RecordForm.read_object rfl rfl m

theorem mem_known_iff (m : KeyMap Json) (key : String) (v : Json) :
    (key, v) ∈ form.known m.entries ↔ m.get? key = some v ∧ key ∈ names := by
  rw [KeyMap.get?_eq_some_iff, RecordForm.known, List.mem_filter]
  simp [form]

theorem known_names (m : KeyMap Json) : ∀ f ∈ form.known m.entries, f.1 ∈ names :=
  fun f hf => ((mem_known_iff m f.1 f.2).mp hf).2

/-- An option is what the map says, or its default where the map says nothing. -/
theorem lookup_of_ofProperties (m : KeyMap Json) (o : Options) (h : ofProperties m = .ok o) :
    (∀ key ∈ names, ∀ v, m.get? key = some v →
      ∃ j, readProperty key v = .ok j ∧ o.properties.lookup key = some j) ∧
    ∀ key, m.get? key = none → o.properties.lookup key = documented.lookup key := by
  have hnodup : ((form.known m.entries).map (·.1)).Nodup :=
    m.nodup_keys.sublist (List.filter_sublist.map _)
  rw [ofProperties_eq] at h
  obtain ⟨hread, hkept⟩ := lookup_of_foldlM_step _ _ o hnodup (known_names m) h
  constructor
  · intro key hkey v hv
    exact hread (key, v) ((mem_known_iff m key v).mpr ⟨hv, hkey⟩)
  · intro key hnone
    have hdefaults : ({} : Options).properties = documented := rfl
    rw [← hdefaults]
    apply hkept
    intro hmem
    obtain ⟨f, hf, rfl⟩ := List.mem_map.mp hmem
    have hgiven := ((mem_known_iff m f.1 f.2).mp hf).1
    rw [hnone] at hgiven
    cases hgiven

/-- A given value that is not usable, and whose key comes first in UTF-8 of all that are given with
such values. -/
structure FirstUnusable (m : KeyMap Json) (key : String) (v : Json) : Prop where
  given : m.get? key = some v
  unusable : ¬ Usable key v
  first : ∀ k w, m.get? k = some w → ¬ Usable k w → k = key ∨ Text.utf8 key < Text.utf8 k

/-- **The first key whose value is not usable decides the error.** -/
theorem ofProperties_error_iff (m : KeyMap Json) (e : ReadError) :
    ofProperties m = .error e ↔ ∃ key v, FirstUnusable m key v ∧ e = complaint key v := by
  have hascending : (form.known m.entries).Pairwise (·.1 < ·.1) :=
    m.ascending.sublist List.filter_sublist
  rw [ofProperties_eq, foldlM_step_error_iff _ e _ (known_names m),
    KeyMap.exists_first_iff _ hascending (fun f => Usable f.1 f.2)]
  constructor
  · rintro ⟨⟨key, v⟩, hmem, hread, hfirst⟩
    obtain ⟨hgiven, hkey⟩ := (mem_known_iff m key v).mp hmem
    obtain ⟨hunusable, rfl⟩ := (readProperty_eq_error_iff hkey v e).mp hread
    refine ⟨key, v, ⟨hgiven, hunusable, fun k w hw hnot => ?_⟩, rfl⟩
    have hknown : (k, w) ∈ form.known m.entries :=
      (mem_known_iff m k w).mpr ⟨hw, mem_names_of_not_usable hnot⟩
    rcases hfirst (k, w) hknown hnot with heq | hlt
    · exact Or.inl (congrArg Prod.fst heq)
    · exact Or.inr ((Text.utf8_lt_iff key k).mpr hlt)
  · rintro ⟨key, v, ⟨hgiven, hunusable, hfirst⟩, rfl⟩
    have hkey : key ∈ names := mem_names_of_not_usable hunusable
    refine ⟨(key, v), (mem_known_iff m key v).mpr ⟨hgiven, hkey⟩,
      (readProperty_eq_error_iff hkey v _).mpr ⟨hunusable, rfl⟩, fun f hf hnot => ?_⟩
    obtain ⟨k, w⟩ := f
    have hw := ((mem_known_iff m k w).mp hf).1
    rcases hfirst k w hw hnot with rfl | hlt
    · rw [hgiven] at hw
      exact Or.inl (by rw [Option.some.inj hw])
    · exact Or.inr ((Text.utf8_lt_iff key k).mp hlt)

theorem exists_ofProperties_iff (m : KeyMap Json) :
    (∃ o, ofProperties m = .ok o) ↔ ∀ key v, m.get? key = some v → Usable key v := by
  constructor
  · rintro ⟨o, ho⟩ key v hv
    by_cases hkey : key ∈ names
    · obtain ⟨j, hj, -⟩ := (lookup_of_ofProperties m o ho).1 key hkey v hv
      exact (usable_iff_exists_readProperty hkey v).mpr ⟨j, hj⟩
    · exact usable_of_not_mem_names hkey v
  · intro h
    cases ho : ofProperties m with
    | ok o => exact ⟨o, rfl⟩
    | error e =>
      obtain ⟨key, v, hfirst, -⟩ := (ofProperties_error_iff m e).mp ho
      exact absurd (h key v hfirst.given) hfirst.unusable

/-! ## What is written -/

theorem get?_templateProperties (o : Options) (key : String) :
    o.templateProperties.get? key = (o.properties.lookup key).or (toolchain.lookup key) := by
  have hkeys : (o.properties ++ toolchain).map (·.1) = names ++ ["java8", "javaVersion", "jdk8"] :=
    rfl
  have hnodup : ((o.properties ++ toolchain).map (·.1)).Nodup := by
    rw [hkeys]
    decide
  rw [templateProperties, KeyMap.get?_ofList _ hnodup, List.lookup_append]

theorem get?_templateProperties_of_mem (o : Options) (h : key ∈ names) :
    o.templateProperties.get? key = o.properties.lookup key := by
  obtain ⟨v, hv⟩ := o.exists_lookup_properties h
  rw [get?_templateProperties, hv]
  rfl

theorem mem_keys_templateProperties (o : Options) (key : String) :
    key ∈ o.templateProperties.keys ↔ key ∈ names ++ ["java8", "javaVersion", "jdk8"] := by
  rw [templateProperties, KeyMap.mem_keys_ofList]
  rfl

/-- Properties that hold what is given where something is and the documented default where nothing
is, beside those of the toolchain and no others. -/
structure Overlays (given properties : KeyMap Json) : Prop where
  text : ∀ key ∈ textNames, ∀ s, given.get? key = some (.str s) →
    properties.get? key = some (.str s)
  flag : ∀ key ∈ flagNames, ∀ v b, given.get? key = some v → StandsFor v b →
    properties.get? key = some (.bool b)
  default : ∀ key v, documented.lookup key = some v → given.get? key = none →
    properties.get? key = some v
  java8 : properties.get? "java8" = some (.bool true)
  javaVersion : properties.get? "javaVersion" = some (.str "1.8")
  jdk8 : properties.get? "jdk8" = some (.str "true")
  keys : ∀ key, key ∈ properties.keys ↔
    key ∈ textNames ∨ key ∈ flagNames ∨ key ∈ ["java8", "javaVersion", "jdk8"]

theorem overlays_of_ofProperties (m : KeyMap Json) (o : Options) (h : ofProperties m = .ok o) :
    Overlays m o.templateProperties := by
  obtain ⟨hgiven, hdefault⟩ := lookup_of_ofProperties m o h
  refine ⟨?text, ?flag, ?default, ?java8, ?javaVersion, ?jdk8, ?keys⟩
  case text =>
    intro key hkey s hs
    have hname : key ∈ names := mem_names_iff.mpr (Or.inl hkey)
    obtain ⟨j, hj, hlookup⟩ := hgiven key hname (.str s) hs
    rw [readProperty_text hkey] at hj
    rw [o.get?_templateProperties_of_mem hname, hlookup, Except.ok.inj hj]
  case flag =>
    intro key hkey v b hv hb
    have hname : key ∈ names := mem_names_iff.mpr (Or.inr hkey)
    obtain ⟨j, hj, hlookup⟩ := hgiven key hname v hv
    rw [readProperty_flag hkey hb] at hj
    rw [o.get?_templateProperties_of_mem hname, hlookup, Except.ok.inj hj]
  case default =>
    intro key v hv hnone
    rw [get?_templateProperties, hdefault key hnone, hv]
    rfl
  case java8 => exact o.get?_templateProperties "java8"
  case javaVersion => exact o.get?_templateProperties "javaVersion"
  case jdk8 => exact o.get?_templateProperties "jdk8"
  case keys =>
    intro key
    rw [mem_keys_templateProperties, List.mem_append, mem_names_iff, or_assoc]

/-! ## Reading what was written -/

theorem eq_of_lookup (o p : Options)
    (h : ∀ key ∈ names, o.properties.lookup key = p.properties.lookup key) : o = p := by
  cases o
  cases p
  simpa [names, properties, List.lookup_cons] using h

theorem usable_templateProperties (o : Options) (key : String) (v : Json)
    (hv : o.templateProperties.get? key = some v) : Usable key v := by
  constructor
  · intro hkey
    obtain ⟨s, hs⟩ := o.lookup_text hkey
    rw [o.get?_templateProperties_of_mem (mem_names_iff.mpr (Or.inl hkey)), hs] at hv
    exact ⟨s, (Option.some.inj hv).symm⟩
  · intro hkey
    obtain ⟨b, hb⟩ := o.lookup_flag hkey
    rw [o.get?_templateProperties_of_mem (mem_names_iff.mpr (Or.inr hkey)), hb] at hv
    exact ⟨b, Or.inl (Option.some.inj hv).symm⟩

/-- **The properties of options are read as these options.**  All twelve are given, so nothing is
left to the defaults. -/
theorem ofProperties_templateProperties (o : Options) :
    ofProperties o.templateProperties = .ok o := by
  obtain ⟨after, hafter⟩ := (exists_ofProperties_iff _).mpr o.usable_templateProperties
  have hoverlays := overlays_of_ofProperties _ after hafter
  rw [hafter]
  refine congrArg Except.ok (eq_of_lookup after o fun key hkey => ?_)
  have hwritten := o.get?_templateProperties_of_mem hkey
  rw [← after.get?_templateProperties_of_mem hkey]
  rcases mem_names_iff.mp hkey with htext | hflag
  · obtain ⟨s, hs⟩ := o.lookup_text htext
    rw [hs] at hwritten ⊢
    exact hoverlays.text key htext s hwritten
  · obtain ⟨b, hb⟩ := o.lookup_flag hflag
    rw [hb] at hwritten ⊢
    exact hoverlays.flag key hflag (.bool b) b hwritten (Or.inl rfl)

/-- **Options are the defaults overlaid by what is given.**  They are read if all that is given is
usable, whatever else the map holds; what is written then is what was given, or else the documented
default; writing and reading again changes nothing; and otherwise the complaint is about the first
key with an unusable value. -/
theorem ofProperties_overlays (m : KeyMap Json) :
    ((∃ o, ofProperties m = .ok o) ↔ ∀ key v, m.get? key = some v → Usable key v) ∧
      (∀ o, ofProperties m = .ok o → Overlays m o.templateProperties) ∧
      (∀ o : Options, ofProperties o.templateProperties = .ok o) ∧
      ∀ e, Error.ofRead (ofProperties m) = .error e ↔
        ∃ key v, FirstUnusable m key v ∧ e = .json (complaint key v) := by
  refine ⟨exists_ofProperties_iff m, overlays_of_ofProperties m, ofProperties_templateProperties,
    fun e => ?_⟩
  have hcause : Error.ofRead (ofProperties m) = .error e ↔
      ∃ cause, ofProperties m = .error cause ∧ e = .json cause := by
    cases ofProperties m <;> simp [Error.ofRead, eq_comm]
  rw [hcause]
  simp only [ofProperties_error_iff]
  constructor
  · rintro ⟨cause, ⟨key, v, hfirst, rfl⟩, rfl⟩
    exact ⟨key, v, hfirst, rfl⟩
  · rintro ⟨key, v, hfirst, rfl⟩
    exact ⟨_, ⟨key, v, hfirst, rfl⟩, rfl⟩

/-- A flag given as a text, beside a key that is no option. -/
theorem ofProperties_overlays_text :
    ofProperties (KeyMap.ofList [("wrapCalls", .str " FALSE\n"), ("pets", .null)]) =
      .ok { wrapCalls := false } ∧
    Overlays (KeyMap.ofList [("wrapCalls", .str " FALSE\n"), ("pets", .null)])
      (templateProperties { wrapCalls := false }) :=
  ⟨by decide, (ofProperties_overlays _).2.1 _ (by decide)⟩

/-- The key of the title comes first, in whatever order the two are given. -/
example : ofProperties (KeyMap.ofList [("wrapCalls", .str "no"), ("title", .null)]) =
    .error (.wrongType .null "a string") := by decide

end Options

end PlayScaffold
