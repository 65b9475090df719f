import RoamerX.Center.LocalizationProgress

set_option autoImplicit false

/-! # What a localization record tells of the packets

A place in a record is reached over the members of objects and over the entries of lists, told by their
identity. At every place, the record merged from packets is what the packets report there, merged one after
another. -/

namespace RoamerX

namespace LocalizationProgress

inductive Step
  | field (key : String)
  | entry (kind : ListKind) (id : Identity)
  deriving DecidableEq

section Places

variable (texts : Texts)

def child (members : Members) : Step → Option Json
  | .field key => Json.get? members key
  | .entry kind id => Keyed.get (identity? texts kind) (some id) (itemsOf (Json.get? members kind.key))

def reach : Json → List Step → Option Json
  | value, [] => some value
  | .obj members, step :: path => (child texts members step).bind fun value => reach value path
  | _, _ :: _ => none

/-- What a step leads to after the merge. -/
def Step.combine (step : Step) (old new : Json) : Json :=
  match step with
  | .field key => mergedValue texts key (some old) new
  | .entry _ _ => combineEntries texts old new

/-- What is at a place after the merge. -/
def combineAt : List Step → Json → Json → Json
  | [] => combineEntries texts
  | [step] => step.combine texts
  | _ :: step :: path => combineAt (step :: path)

/-- An object or a list is not replaced by a value of another type. -/
structure Keeps (old new : Json) : Prop where
  object : ∀ m, old = .obj m → ∃ n, new = .obj n
  list : ∀ items, old = .arr items → ∃ new', new = .arr new'

/-- The later record replaces no object or list of the earlier one by a value of another type. -/
def Compatible (earlier later : Members) : Prop :=
  ∀ path m n key value value', reach texts (.obj earlier) path = some (.obj m) →
    reach texts (.obj later) path = some (.obj n) → Json.get? m key = some value →
    Json.get? n key = some value' → Keeps value value'

end Places

variable {texts : Texts} {m n : Members} {kind : ListKind} {key : String} {value old new : Json} {step : Step}
  {path : List Step}

/-! ## Steps -/

theorem joined_none_right (combine : Json → Json → Json) (old : Option Json) :
    Keyed.joined combine old none = old := by
  cases old with
  | none => rfl
  | some value => rfl

theorem reach_of_not_obj (hvalue : ∀ m, value ≠ .obj m) : reach texts value (step :: path) = none := by
  cases value with
  | obj m => exact absurd rfl (hvalue m)
  | null => rfl
  | bool b => rfl
  | num q => rfl
  | str s => rfl
  | arr items => rfl

theorem reach_cons (members : Members) (step : Step) (path : List Step) :
    reach texts (.obj members) (step :: path) = (child texts members step).bind fun value => reach texts value path :=
  rfl

theorem reach_append (value : Json) (path path' : List Step) :
    reach texts value (path ++ path') = (reach texts value path).bind fun inner => reach texts inner path' := by
  induction path generalizing value with
  | nil => rfl
  | cons step path ih =>
    cases value with
    | obj m =>
      rw [List.cons_append, reach_cons, reach_cons]
      cases child texts m step with
      | none => rfl
      | some inner => exact ih inner
    | null => rfl
    | bool b => rfl
    | num q => rfl
    | str s => rfl
    | arr items => rfl

theorem Tidy.child_entry {id : Identity} (h : Tidy texts m) (hchild : child texts m (.entry kind id) = some value) :
    ∃ inner, value = .obj inner := by
  obtain ⟨⟨inner, -, rfl, -, -⟩, -⟩ := (h.itemsOf kind).1 value (Keyed.mem_of_get hchild)
  exact ⟨inner, rfl⟩

theorem Tidy.inner {inner : Members} (h : Tidy texts m) (hchild : child texts m step = some (.obj inner)) :
    Tidy texts inner := by
  cases step with
  | field key => exact h.object (mem_of_get? hchild)
  | entry kind id => exact h.entry_itemsOf (Keyed.mem_of_get hchild)

theorem Tidy.inner_reach {inner : Members} (h : Tidy texts m) (hreach : reach texts (.obj m) path = some (.obj inner)) :
    Tidy texts inner := by
  induction path generalizing m with
  | nil =>
    cases hreach
    exact h
  | cons step path ih =>
    obtain ⟨value, hchild, hvalue⟩ := Option.bind_eq_some_iff.mp hreach
    by_cases hobj : ∃ m', value = .obj m'
    · obtain ⟨m', rfl⟩ := hobj
      exact ih (h.inner hchild) hvalue
    · cases path with
      | nil => exact absurd ⟨inner, Option.some.inj hvalue⟩ hobj
      | cons step' path =>
        rw [reach_of_not_obj fun m' hm' => hobj ⟨m', hm'⟩] at hvalue
        exact nomatch hvalue

theorem combineAt_obj_obj (path : List Step) (m n : Members) :
    combineAt texts path (.obj m) (.obj n) = .obj (deepMerge texts m n) := by
  induction path with
  | nil => rfl
  | cons step path ih =>
    cases path with
    | nil =>
      cases step with
      | field key => rfl
      | entry kind id => rfl
    | cons step' path => exact ih

theorem keeps_of_obj (m n : Members) : Keeps (.obj m) (.obj n) := ⟨fun _ _ => ⟨n, rfl⟩, nofun⟩

theorem Compatible.root (h : Compatible texts m n) {value' : Json} (hm : Json.get? m key = some value)
    (hn : Json.get? n key = some value') : Keeps value value' :=
  h [] m n key value value' rfl rfl hm hn

theorem Compatible.inner {m' n' : Members} (h : Compatible texts m n) (hm : child texts m step = some (.obj m'))
    (hn : child texts n step = some (.obj n')) : Compatible texts m' n' := by
  intro path a b key value value' ha hb
  refine h (step :: path) a b key value value' ?_ ?_
  · rw [reach_cons, hm]
    exact ha
  · rw [reach_cons, hn]
    exact hb

theorem Compatible.inner_reach {m' n' : Members} (h : Compatible texts m n)
    (hm : reach texts (.obj m) path = some (.obj m')) (hn : reach texts (.obj n) path = some (.obj n')) :
    Compatible texts m' n' := by
  intro path' a b key value value' ha hb
  refine h (path ++ path') a b key value value' ?_ ?_
  · rw [reach_append, hm]
    exact ha
  · rw [reach_append, hn]
    exact hb

theorem Compatible.keeps_child (h : Compatible texts m n) (hm : Tidy texts m) (hn : Tidy texts n)
    (hold : child texts m step = some old) (hnew : child texts n step = some new) : Keeps old new := by
  cases step with
  | field key => exact h.root hold hnew
  | entry kind id =>
    obtain ⟨m', rfl⟩ := hm.child_entry hold
    obtain ⟨n', rfl⟩ := hn.child_entry hnew
    exact keeps_of_obj m' n'

theorem itemsOf_deepMerge (htexts : TruthyTexts texts) (hm : Tidy texts m) (hn : Tidy texts n)
    (h : Compatible texts m n) (kind : ListKind) :
    itemsOf (Json.get? (deepMerge texts m n) kind.key) = Keyed.putAll (identity? texts kind) (combineEntries texts)
      (itemsOf (Json.get? m kind.key)) (itemsOf (Json.get? n kind.key)) := by
  rw [get?_deepMerge hn.keys]
  cases hnew : Json.get? n kind.key with
  | none => rfl
  | some new =>
    dsimp only
    by_cases hlist : ∃ items, new = .arr items
    · obtain ⟨items, rfl⟩ := hlist
      rw [mergedValue_list htexts _ (hn.sound (mem_of_get? hnew)) (hm.itemsOf kind).1 (hm.itemsOf kind).2]
      rfl
    · have hitems : ∀ value, (¬∃ items, value = Json.arr items) → itemsOf (some value) = [] := by
        intro value hvalue
        unfold itemsOf
        split
        · next items hsome => exact absurd ⟨items, Option.some.inj hsome⟩ hvalue
        · rfl
      have hmerged : ¬∃ items, mergedValue texts kind.key (Json.get? m kind.key) new = .arr items :=
        fun ⟨items, hitems⟩ => hlist (mergedValue_eq_arr hitems)
      rw [hitems _ hmerged, hitems _ hlist]
      cases hold : Json.get? m kind.key with
      | none => rfl
      | some old =>
        rw [hitems old fun ⟨items, hold'⟩ => hlist ((h.root hold hnew).list items hold')]
        rfl

/-- **What a step leads to is merged.** -/
theorem child_deepMerge (htexts : TruthyTexts texts) (hm : Tidy texts m) (hn : Tidy texts n)
    (h : Compatible texts m n) (step : Step) :
    child texts (deepMerge texts m n) step =
      Keyed.joined (step.combine texts) (child texts m step) (child texts n step) := by
  cases step with
  | field key =>
    simp only [child]
    rw [get?_deepMerge hn.keys]
    cases hnew : Json.get? n key with
    | none => exact (joined_none_right _ _).symm
    | some new =>
      cases hold : Json.get? m key with
      | none => exact congrArg some (hn.mergedValue_none htexts (mem_of_get? hnew))
      | some old => rfl
  | entry kind id =>
    simp only [child]
    rw [itemsOf_deepMerge htexts hm hn h]
    exact (entries_lawful htexts kind).get_putAll (hm.itemsOf kind).1 (hn.itemsOf kind).1 (hn.itemsOf kind).2 _

/-! ## Places -/

theorem combine_of_not_obj (hnew : ∀ n, new ≠ .obj n) (key : String) (old : Json) :
    ∀ inner, (Step.field key).combine texts old new ≠ .obj inner := by
  intro inner h
  obtain ⟨n, rfl, -⟩ := mergedValue_eq_obj h
  exact hnew n rfl

theorem combine_obj_obj (step : Step) (m n : Members) :
    step.combine texts (.obj m) (.obj n) = .obj (deepMerge texts m n) := by
  cases step with
  | field key => rfl
  | entry kind id => rfl

/-- **What is at a place of the merged record is merged.** -/
theorem reach_deepMerge (htexts : TruthyTexts texts) (hm : Tidy texts m) (hn : Tidy texts n)
    (h : Compatible texts m n) (path : List Step) :
    reach texts (.obj (deepMerge texts m n)) path =
      Keyed.joined (combineAt texts path) (reach texts (.obj m) path) (reach texts (.obj n) path) := by
  induction path generalizing m n with
  | nil => rfl
  | cons step path ih =>
    rw [reach_cons, reach_cons, reach_cons, child_deepMerge htexts hm hn h]
    cases hold : child texts m step with
    | none =>
      cases hnew : child texts n step with
      | none => rfl
      | some new =>
        show reach texts new path = Keyed.joined _ none (reach texts new path)
        cases reach texts new path with
        | none => rfl
        | some value => rfl
    | some old =>
      cases hnew : child texts n step with
      | none => exact (joined_none_right _ _).symm
      | some new =>
        show reach texts (step.combine texts old new) path =
          Keyed.joined (combineAt texts (step :: path)) (reach texts old path) (reach texts new path)
        cases path with
        | nil => rfl
        | cons step' path =>
          -- further on there is something only in objects
          by_cases hobj : ∃ n', new = .obj n'
          · obtain ⟨n', rfl⟩ := hobj
            by_cases hobj' : ∃ m', old = .obj m'
            · obtain ⟨m', rfl⟩ := hobj'
              rw [combine_obj_obj]
              exact ih (hm.inner hold) (hn.inner hnew) (h.inner hold hnew)
            · have hnone : reach texts old (step' :: path) = none :=
                reach_of_not_obj fun m' hm' => hobj' ⟨m', hm'⟩
              cases step with
              | field key =>
                rcases @mergedValue_obj texts key (some old) n' with ⟨m', hm', -⟩ | ⟨-, hmerged⟩
                · exact absurd ⟨m', Option.some.inj hm'⟩ hobj'
                · rw [Step.combine, hmerged, hnone]
                  cases reach texts (.obj n') (step' :: path) with
                  | none => rfl
                  | some value => rfl
              | entry kind id => exact absurd (hm.child_entry hold) hobj'
          · have hnot : ∀ n', new ≠ .obj n' := fun n' hn' => hobj ⟨n', hn'⟩
            cases step with
            | field key =>
              have hkeeps := h.keeps_child hm hn hold hnew
              have hnot' : ∀ m', old ≠ .obj m' := fun m' hm' => hobj (hkeeps.object m' hm')
              rw [reach_of_not_obj (combine_of_not_obj hnot key old), reach_of_not_obj hnot, reach_of_not_obj hnot']
              rfl
            | entry kind id => exact absurd (hn.child_entry hnew) hobj

theorem Compatible.keeps (h : Compatible texts m n) (hm : Tidy texts m) (hn : Tidy texts n)
    (hold : reach texts (.obj m) path = some old) (hnew : reach texts (.obj n) path = some new) : Keeps old new := by
  induction path generalizing m n with
  | nil =>
    cases hold
    cases hnew
    exact keeps_of_obj m n
  | cons step path ih =>
    obtain ⟨old', hchild, hold'⟩ := Option.bind_eq_some_iff.mp hold
    obtain ⟨new', hchild', hnew'⟩ := Option.bind_eq_some_iff.mp hnew
    cases path with
    | nil =>
      cases hold'
      cases hnew'
      exact h.keeps_child hm hn hchild hchild'
    | cons step' path =>
      by_cases hobj : (∃ m', old' = .obj m') ∧ ∃ n', new' = .obj n'
      · obtain ⟨⟨m', rfl⟩, n', rfl⟩ := hobj
        exact ih (h.inner hchild hchild') (hm.inner hchild) (hn.inner hchild') hold' hnew'
      · rw [not_and_or] at hobj
        rcases hobj with hnot | hnot
        · rw [reach_of_not_obj fun m' hm' => hnot ⟨m', hm'⟩] at hold'
          exact nomatch hold'
        · rw [reach_of_not_obj fun n' hn' => hnot ⟨n', hn'⟩] at hnew'
          exact nomatch hnew'

theorem combineAt_append (path : List Step) (step : Step) :
    combineAt texts (path ++ [step]) = step.combine texts := by
  induction path with
  | nil => rfl
  | cons first path ih =>
    cases path with
    | nil => rfl
    | cons second path => exact ih

theorem Tidy.reach_entry {id : Identity} (h : Tidy texts m)
    (hreach : reach texts (.obj m) (path ++ [.entry kind id]) = some value) : ∃ inner, value = .obj inner := by
  rw [reach_append] at hreach
  obtain ⟨front, hfront, hvalue⟩ := Option.bind_eq_some_iff.mp hreach
  by_cases hobj : ∃ m', front = .obj m'
  · obtain ⟨m', rfl⟩ := hobj
    obtain ⟨value', hchild, hvalue'⟩ := Option.bind_eq_some_iff.mp hvalue
    cases hvalue'
    exact (h.inner_reach hfront).child_entry hchild
  · rw [reach_of_not_obj fun m' hm' => hobj ⟨m', hm'⟩] at hvalue
    exact nomatch hvalue

theorem combineAt_cases (hm : Tidy texts m) (hn : Tidy texts n) (hold : reach texts (.obj m) path = some old)
    (hnew : reach texts (.obj n) path = some new) :
    (∃ m' n', old = .obj m' ∧ new = .obj n') ∨
      ∃ key, path.getLast? = some (.field key) ∧
        combineAt texts path old new = mergedValue texts key (some old) new := by
  rcases path.eq_nil_or_concat with rfl | ⟨front, step, rfl⟩
  · cases hold
    cases hnew
    exact Or.inl ⟨m, n, rfl, rfl⟩
  · rw [List.concat_eq_append] at hold hnew ⊢
    cases step with
    | field key =>
      rw [List.getLast?_concat, combineAt_append]
      exact Or.inr ⟨key, rfl, rfl⟩
    | entry kind id =>
      obtain ⟨m', rfl⟩ := hm.reach_entry hold
      obtain ⟨n', rfl⟩ := hn.reach_entry hnew
      exact Or.inl ⟨m', n', rfl, rfl⟩

/-- The object at a place after the merge: the newer one, merged into the older one where that is an object. -/
theorem combineAt_eq_obj {inner : Members} (hm : Tidy texts m) (hn : Tidy texts n)
    (hold : reach texts (.obj m) path = some old) (hnew : reach texts (.obj n) path = some new)
    (h : combineAt texts path old new = .obj inner) :
    ∃ n', new = .obj n' ∧ ((∃ m', old = .obj m' ∧ inner = deepMerge texts m' n') ∨ inner = n') := by
  rcases combineAt_cases hm hn hold hnew with ⟨m', n', rfl, rfl⟩ | ⟨key, -, hfield⟩
  · rw [combineAt_obj_obj] at h
    exact ⟨n', rfl, Or.inl ⟨m', rfl, (Json.obj.inj h).symm⟩⟩
  · rw [hfield] at h
    obtain ⟨n', hn', ⟨m', hm', hinner⟩ | hinner⟩ := mergedValue_eq_obj h
    · exact ⟨n', hn', Or.inl ⟨m', Option.some.inj hm', hinner⟩⟩
    · exact ⟨n', hn', Or.inr hinner⟩

theorem combineAt_not_obj {n' : Members} (hm : Tidy texts m) (hn : Tidy texts n)
    (hold : reach texts (.obj m) path = some old) (hnew : reach texts (.obj n) path = some (.obj n'))
    (hnot : ∀ m', old ≠ .obj m') : combineAt texts path old (.obj n') = .obj n' := by
  rcases combineAt_cases hm hn hold hnew with ⟨m', n', rfl, -⟩ | ⟨key, -, hfield⟩
  · exact absurd rfl (hnot m')
  · rw [hfield]
    rcases @mergedValue_obj texts key (some old) n' with ⟨m', hm', -⟩ | ⟨-, hmerged⟩
    · exact absurd (Option.some.inj hm') (hnot m')
    · exact hmerged

theorem compatible_nil (n : Members) : Compatible texts [] n := by
  intro path m n key value value' hm
  cases path with
  | nil =>
    cases hm
    exact nofun
  | cons step path =>
    cases step with
    | field key => exact nomatch hm
    | entry kind id => exact nomatch hm

theorem Compatible.deepMerge {p : Members} (htexts : TruthyTexts texts) (hm : Tidy texts m) (hn : Tidy texts n)
    (h : Compatible texts m n) (hmp : Compatible texts m p) (hnp : Compatible texts n p) :
    Compatible texts (deepMerge texts m n) p := by
  intro path inner inner' key value value' hinner hinner' hvalue hvalue'
  rw [reach_deepMerge htexts hm hn h] at hinner
  cases hold : reach texts (.obj m) path with
  | none =>
    cases hnew : reach texts (.obj n) path with
    | none =>
      rw [hold, hnew] at hinner
      exact nomatch hinner
    | some new =>
      rw [hold, hnew] at hinner
      cases hinner
      exact hnp path inner inner' key value value' hnew hinner' hvalue hvalue'
  | some old =>
    cases hnew : reach texts (.obj n) path with
    | none =>
      rw [hold, hnew] at hinner
      cases hinner
      exact hmp path inner inner' key value value' hold hinner' hvalue hvalue'
    | some new =>
      rw [hold, hnew] at hinner
      obtain ⟨n', rfl, ⟨m', rfl, rfl⟩ | rfl⟩ := combineAt_eq_obj hm hn hold hnew (Option.some.inj hinner)
      · rw [get?_deepMerge (hn.inner_reach hnew).keys] at hvalue
        cases hreport : Json.get? n' key with
        | none =>
          rw [hreport] at hvalue
          exact hmp path m' inner' key value value' hold hinner' hvalue hvalue'
        | some report =>
          rw [hreport] at hvalue
          have hkeeps := hnp path n' inner' key report value' hnew hinner' hreport hvalue'
          refine ⟨fun a ha => ?_, fun items ha => ?_⟩
          · rw [← Option.some.inj hvalue] at ha
            obtain ⟨b, hb, -⟩ := mergedValue_eq_obj ha
            exact hkeeps.object b hb
          · rw [← Option.some.inj hvalue] at ha
            obtain ⟨b, hb⟩ := mergedValue_eq_arr ha
            exact hkeeps.list b hb
      · exact hnp path inner inner' key value value' hnew hinner' hvalue hvalue'

/-! ## What the packets report -/

/-- The identities of the list of a kind in the object at a place. -/
def idsAt (texts : Texts) (path : List Step) (kind : ListKind) (members : Members) : List (Option Identity) :=
  match reach texts (.obj members) path with
  | some (.obj m) => (itemsOf (Json.get? m kind.key)).map (identity? texts kind)
  | _ => []

/-- An object, or a list of stages or of attempts: what is in it has places of its own. -/
def collects (path : List Step) : Json → Bool
  | .obj _ => true
  | .arr _ => match path.getLast? with
    | some (.field key) => (listKind? key).isSome
    | _ => false
  | _ => false

/-- Nothing that the packets report is lost, doubled or moved. -/
structure Lossless (texts : Texts) (packets : List Members) (record : Members) : Prop where
  /-- No two entries of a list have one identity. -/
  tidy : Tidy texts record
  /-- The entries are those of all packets, in the order of their first appearance. -/
  entries : ∀ path kind, idsAt texts path kind record = Keyed.firstAppearances (packets.map (idsAt texts path kind))
  /-- A field has the value of its latest report. -/
  latest : ∀ before packet after, packets = before ++ packet :: after → ∀ path value,
    reach texts (.obj packet) path = some value → collects path value = false →
    (∀ p ∈ after, reach texts (.obj p) path = none) → reach texts (.obj record) path = some value

theorem idsAt_deepMerge (htexts : TruthyTexts texts) (hm : Tidy texts m) (hn : Tidy texts n)
    (h : Compatible texts m n) (path : List Step) (kind : ListKind) :
    idsAt texts path kind (deepMerge texts m n) = idsAt texts path kind m ++
      Keyed.fresh (idsAt texts path kind m) (idsAt texts path kind n) := by
  have hreach := reach_deepMerge htexts hm hn h path
  have hnothing : ∀ r : Members, (∀ inner, reach texts (.obj r) path ≠ some (.obj inner)) →
      idsAt texts path kind r = [] := by
    intro r hr
    unfold idsAt
    split
    · next inner hinner => exact absurd hinner (hr inner)
    · rfl
  have hids : ∀ (r inner : Members), reach texts (.obj r) path = some (.obj inner) →
      idsAt texts path kind r = (itemsOf (Json.get? inner kind.key)).map (identity? texts kind) := by
    intro r inner hr
    rw [idsAt, hr]
  by_cases hnobj : ∃ n', reach texts (.obj n) path = some (.obj n')
  · obtain ⟨n', hn'⟩ := hnobj
    by_cases hmobj : ∃ m', reach texts (.obj m) path = some (.obj m')
    · obtain ⟨m', hm'⟩ := hmobj
      have hcompatible := h.inner_reach hm' hn'
      have htidym := hm.inner_reach hm'
      have htidyn := hn.inner_reach hn'
      have hmerged : reach texts (.obj (deepMerge texts m n)) path = some (.obj (deepMerge texts m' n')) := by
        rw [hreach, hm', hn']
        exact congrArg some (combineAt_obj_obj path m' n')
      rw [hids _ _ hmerged, hids _ _ hm', hids _ _ hn', itemsOf_deepMerge htexts htidym htidyn hcompatible]
      exact (entries_lawful htexts kind).keys_putAll (htidym.itemsOf kind).1 (htidyn.itemsOf kind).1
        (htidyn.itemsOf kind).2
    · have hmerged : reach texts (.obj (deepMerge texts m n)) path = some (.obj n') := by
        rw [hreach, hn']
        cases hold : reach texts (.obj m) path with
        | none => rfl
        | some old => exact congrArg some (combineAt_not_obj hm hn hold hn' fun m' hm' => hmobj ⟨m', hm' ▸ hold⟩)
      rw [hids _ _ hmerged, hids _ _ hn', hnothing m fun m' hm' => hmobj ⟨m', hm'⟩, Keyed.fresh_nil, List.nil_append]
  · rw [hnothing n fun n' hn' => hnobj ⟨n', hn'⟩, Keyed.fresh, List.filter_nil, List.append_nil]
    cases hnew : reach texts (.obj n) path with
    | none =>
      unfold idsAt
      rw [hreach, hnew, joined_none_right]
    | some new =>
      -- neither has an object there
      have hnot : ∀ n', new ≠ .obj n' := fun n' hn' => hnobj ⟨n', hn' ▸ hnew⟩
      have hmnot : ∀ m', reach texts (.obj m) path ≠ some (.obj m') := by
        intro m' hm'
        obtain ⟨n', hn'⟩ := (h.keeps hm hn hm' hnew).object m' rfl
        exact hnot n' hn'
      rw [hnothing m hmnot]
      refine hnothing _ fun inner hinner => ?_
      rw [hreach, hnew] at hinner
      cases hold : reach texts (.obj m) path with
      | none =>
        rw [hold] at hinner
        exact hnot inner (Option.some.inj hinner)
      | some old =>
        rw [hold] at hinner
        obtain ⟨n', hn', -⟩ := combineAt_eq_obj hm hn hold hnew (Option.some.inj hinner)
        exact hnot n' hn'

theorem combineAt_of_plain (hm : Tidy texts m) (hn : Tidy texts n)
    (hold : reach texts (.obj m) path = some old) (hnew : reach texts (.obj n) path = some new)
    (hplain : collects path new = false) : combineAt texts path old new = new := by
  rcases combineAt_cases hm hn hold hnew with ⟨m', n', -, rfl⟩ | ⟨key, hlast, hfield⟩
  · exact nomatch hplain
  · rw [hfield]
    cases new with
    | obj n' => exact nomatch hplain
    | arr items =>
      rw [collects, hlast] at hplain
      have hkind : listKind? key = none := by
        rw [← Option.not_isSome_iff_eq_none, Bool.not_eq_true]
        exact hplain
      rw [mergedValue, hkind]
    | null => rfl
    | bool b => rfl
    | num q => rfl
    | str s => rfl

/-- **One more packet.** -/
theorem Lossless.append {packets : List Members} {record packet : Members} (htexts : TruthyTexts texts)
    (h : Lossless texts packets record) (hpacket : Tidy texts packet) (hcompatible : Compatible texts record packet) :
    Lossless texts (packets ++ [packet]) (deepMerge texts record packet) where
  tidy := h.tidy.deepMerge htexts hpacket
  entries := by
    intro path kind
    rw [idsAt_deepMerge htexts h.tidy hpacket hcompatible, List.map_append, List.map_singleton,
      Keyed.firstAppearances_append, h.entries]
  latest := by
    intro before packet' after hsplit path value hvalue hplain hnone
    rw [reach_deepMerge htexts h.tidy hpacket hcompatible]
    rcases after.eq_nil_or_concat with rfl | ⟨after, last, rfl⟩
    · obtain ⟨-, hlast⟩ := List.append_inj' hsplit rfl
      cases hlast
      rw [hvalue]
      cases hold : reach texts (.obj record) path with
      | none => rfl
      | some old => exact congrArg some (combineAt_of_plain h.tidy hpacket hold hvalue hplain)
    · rw [List.concat_eq_append, ← List.cons_append, ← List.append_assoc] at hsplit
      obtain ⟨rfl, hlast⟩ := List.append_inj' hsplit rfl
      cases hlast
      rw [hnone packet (by simp), joined_none_right]
      exact h.latest before packet' after rfl path value hvalue hplain fun p hp => hnone p (by simp [hp])

theorem lossless_run (htexts : TruthyTexts texts) {packets : List Members} (htidy : ∀ p ∈ packets, Tidy texts p)
    (hcompatible : packets.Pairwise (Compatible texts)) :
    Lossless texts packets (packets.foldl (deepMerge texts) []) ∧
      ∀ later, (∀ p ∈ packets, Compatible texts p later) →
        Compatible texts (packets.foldl (deepMerge texts) []) later := by
  induction packets using List.reverseRecOn with
  | nil =>
    refine ⟨⟨tidy_nil texts, fun path kind => ?_, ?_⟩, fun later _ => compatible_nil later⟩
    · cases path with
      | nil => rfl
      | cons step path => cases step <;> rfl
    · intro before packet after h
      exact absurd h (by simp)
  | append_singleton packets packet ih =>
    rw [List.pairwise_append] at hcompatible
    rw [List.forall_mem_append, List.forall_mem_singleton] at htidy
    obtain ⟨hlossless, hlater⟩ := ih htidy.1 hcompatible.1
    have hpacket := hlater packet fun p hp => hcompatible.2.2 p hp packet (List.mem_singleton_self _)
    rw [List.foldl_append]
    refine ⟨hlossless.append htexts htidy.2 hpacket, fun later hall => ?_⟩
    rw [List.forall_mem_append, List.forall_mem_singleton] at hall
    exact hpacket.deepMerge htexts hlossless.tidy htidy.2 (hlater later hall.1) hall.2

theorem store_of_mem {commandType : String} (h : commandType ∈ progressCommandTypes) (stored : Members)
    (packet : Packet) : store texts commandType stored packet = deepMerge texts stored packet.members := by
  unfold store
  rw [if_pos h]

/-- **Merging localization progress is lossless, and the same packet again changes nothing.** -/
theorem record_lossless (htexts : TruthyTexts texts) {commandType : String}
    (htype : commandType ∈ progressCommandTypes) {packets : List Packet}
    (htidy : ∀ p ∈ packets, Tidy texts p.members)
    (hcompatible : packets.Pairwise fun p q => Compatible texts p.members q.members) :
    Lossless texts (packets.map Packet.members) (record texts commandType packets) ∧
      ∀ packet, packets.getLast? = some packet →
        store texts commandType (record texts commandType packets) packet = record texts commandType packets := by
  have hmerges : ∀ packets : List Packet, record texts commandType packets =
      (packets.map Packet.members).foldl (deepMerge texts) [] := by
    intro packets
    unfold record
    rw [List.foldl_map]
    exact List.foldl_ext _ _ _ fun stored packet _ => store_of_mem htype stored packet
  have hrun : ∀ {packets : List Packet}, (∀ p ∈ packets, Tidy texts p.members) →
      (packets.Pairwise fun p q => Compatible texts p.members q.members) →
      Lossless texts (packets.map Packet.members) (record texts commandType packets) := by
    intro packets htidy hcompatible
    rw [hmerges]
    exact (lossless_run htexts (List.forall_mem_map.mpr htidy) (List.pairwise_map.mpr hcompatible)).1
  refine ⟨hrun htidy hcompatible, fun packet hlast => ?_⟩
  obtain ⟨before, rfl⟩ := List.getLast?_eq_some_iff.mp hlast
  rw [List.pairwise_append] at hcompatible
  rw [List.forall_mem_append, List.forall_mem_singleton] at htidy
  have hbefore := (hrun htidy.1 hcompatible.1).tidy
  rw [store_of_mem htype]
  unfold record at hbefore ⊢
  rw [List.foldl_append, List.foldl_cons, List.foldl_nil, store_of_mem htype]
  exact deepMerge_deepMerge htexts hbefore htidy.2

def stageReport (stage status : String) : Members :=
  [("stages", .arr [.obj [("stage", .str stage), ("status", .str status)]])]

theorem tidy_stageReport {stage status : String} (hstage : stage ≠ "") : Tidy texts (stageReport stage status) := by
  have hitem : Tidy texts [("stage", .str stage), ("status", .str status)] := by
    refine Tidy.mk (by simp) ?_ ?_ ?_
    · intro key inner hmem
      simp at hmem
    · intro kind items hmem
      simp at hmem
    · intro kind items inner hmem
      simp at hmem
  have hid : identity texts .stages [("stage", .str stage), ("status", .str status)] = some (.stage stage) := by
    have hget : Json.get? [("stage", .str stage), ("status", .str status)] "stage" = some (Json.str stage) := rfl
    have htruthy : (Json.str stage).truthy = true := decide_eq_true hstage
    rw [identity, hget, orElse_some, if_pos htruthy]
    rw [texts.str_str, if_neg hstage]
  refine Tidy.mk (by simp [stageReport]) ?_ ?_ ?_
  · intro key inner hmem
    simp [stageReport] at hmem
  · intro kind items hmem
    simp only [stageReport, List.mem_singleton, Prod.mk.injEq, Json.arr.injEq] at hmem
    obtain ⟨hkind, rfl⟩ := hmem
    cases kind with
    | attempts => exact absurd hkind (by decide)
    | stages =>
      refine ⟨List.forall_mem_singleton.mpr ⟨_, _, rfl, ?_, hid⟩, List.nodup_singleton _⟩
      constructor <;> exact fun inner h => nomatch h
  · intro kind items inner hmem hinner
    simp only [stageReport, List.mem_singleton, Prod.mk.injEq, Json.arr.injEq] at hmem
    obtain ⟨-, rfl⟩ := hmem
    rw [Json.obj.inj (List.mem_singleton.mp hinner)]
    exact hitem

theorem compatible_self (m : Members) : Compatible texts m m := by
  intro path a b key value value' ha hb hvalue hvalue'
  cases ha.symm.trans hb
  cases hvalue.symm.trans hvalue'
  exact ⟨fun n hn => ⟨n, hn⟩, fun items hitems => ⟨items, hitems⟩⟩

theorem stage_reported_twice :
    let packets := [Packet.progress (some (.obj (stageReport "rtk" "failed"))),
      Packet.result (some (.obj (stageReport "rtk" "failed")))]
    Lossless default (packets.map Packet.members) (record default "nav.relocalize" packets) ∧
      ∀ packet, packets.getLast? = some packet →
        store default "nav.relocalize" (record default "nav.relocalize" packets) packet =
          record default "nav.relocalize" packets := by
  intro packets
  refine record_lossless ?_ (by decide) ?_ ?_
  · intro value hvalue hempty
    have hnone : "None" ≠ "" := by decide
    cases value with
    | str s => exact absurd hempty (of_decide_eq_true hvalue)
    | null => exact hnone hempty
    | bool b => exact hnone hempty
    | num q => exact hnone hempty
    | arr items => exact hnone hempty
    | obj m => exact hnone hempty
  · intro p hp
    have hmembers : p.members = stageReport "rtk" "failed" := by
      rcases List.mem_cons.mp hp with rfl | hp
      · rfl
      · rw [List.mem_singleton.mp hp]
        rfl
    rw [hmembers]
    exact tidy_stageReport (by decide)
  · exact List.pairwise_pair.mpr (compatible_self _)

end LocalizationProgress

end RoamerX
