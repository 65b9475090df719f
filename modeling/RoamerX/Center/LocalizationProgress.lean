import RoamerX.Center.LocalizationMerge

set_option autoImplicit false

/-! # No localization progress is lost

Merging tidy packets: members and entries are lists with a key, and the merged record has at every place what
the packets reported there, one after another. -/

namespace RoamerX

namespace LocalizationProgress

variable (texts : Texts)

/-- The member after one of its key is merged in. -/
def combineMembers (old new : String × Json) : String × Json := (new.1, mergedValue texts new.1 (some old.2) new.2)

/-- The entry after one of its identity is merged in. -/
def combineEntries (old new : Json) : Json := .obj (deepMerge texts (membersOf old) (membersOf new))

variable {texts} {previous incoming m n : Members} {items new : List Json} {key : String} {value : Json}
  {kind : ListKind}

/-! ## Lists with an identity -/

@[simp] theorem listKind?_key (kind : ListKind) : listKind? kind.key = some kind := by
  cases kind with
  | stages => rfl
  | attempts => rfl

theorem listKind?_eq_some (h : listKind? key = some kind) : key = kind.key := by
  unfold listKind? at h
  split at h
  · next hkey =>
    cases h
    exact hkey
  · split at h
    · next hkey =>
      cases h
      exact hkey
    · exact nomatch h

/-! ## Members -/

theorem get?_deepMerge (hn : (n.map Prod.fst).Nodup) (m : Members) (key : String) :
    Json.get? (deepMerge texts m n) key = match Json.get? n key with
      | none => Json.get? m key
      | some value => some (mergedValue texts key (Json.get? m key) value) := by
  induction n generalizing m with
  | nil => rfl
  | cons member n ih =>
    obtain ⟨first, value⟩ := member
    rw [List.map_cons, List.nodup_cons] at hn
    rw [deepMerge, ih hn.2, Json.get?_set, Json.get?_cons]
    by_cases hkey : first = key
    · subst hkey
      have hnone : Json.get? n first = none := by
        rw [Json.get?, Option.map_eq_none_iff, List.find?_eq_none]
        intro member hmember hfirst
        exact hn.1 (List.mem_map.mpr ⟨member, hmember, of_decide_eq_true hfirst⟩)
      rw [hnone, if_pos rfl, if_pos rfl]
    · rw [if_neg hkey, if_neg hkey]

theorem keys_set (members : Members) (key : String) (value : Json) :
    (Json.set members key value).map Prod.fst =
      if key ∈ members.map Prod.fst then members.map Prod.fst else members.map Prod.fst ++ [key] := by
  induction members with
  | nil => rfl
  | cons member members ih =>
    rw [Json.set]
    by_cases hkey : member.1 = key
    · rw [if_pos hkey, List.map_cons, List.map_cons, hkey, if_pos List.mem_cons_self]
    · rw [if_neg hkey, List.map_cons, List.map_cons, ih]
      by_cases hmem : key ∈ members.map Prod.fst
      · rw [if_pos hmem, if_pos (List.mem_cons_of_mem _ hmem)]
      · have hnotMem : key ∉ member.1 :: members.map Prod.fst := by
          rw [List.mem_cons, not_or]
          exact ⟨Ne.symm hkey, hmem⟩
        rw [if_neg hmem, if_neg hnotMem, List.cons_append]

theorem nodup_deepMerge (hm : (m.map Prod.fst).Nodup) (n : Members) :
    ((deepMerge texts m n).map Prod.fst).Nodup := by
  induction n generalizing m with
  | nil => exact hm
  | cons member n ih =>
    rw [deepMerge]
    refine ih ?_
    rw [keys_set]
    split
    · exact hm
    · next hnotMem =>
      refine List.nodup_append.mpr ⟨hm, List.nodup_singleton _, ?_⟩
      rintro k hk k' hk' rfl
      exact hnotMem (List.mem_singleton.mp hk' ▸ hk)

theorem set_eq_put (members : Members) (h : mergedValue texts key none value = value) :
    Json.set members key (mergedValue texts key (Json.get? members key) value) =
      Keyed.put Prod.fst (combineMembers texts) members (key, value) := by
  induction members with
  | nil =>
    rw [Json.get?_nil, h]
    rfl
  | cons member members ih =>
    rw [Json.get?_cons, Json.set, Keyed.put]
    by_cases hkey : member.1 = key
    · rw [if_pos hkey, if_pos hkey, if_pos hkey]
      rfl
    · rw [if_neg hkey, if_neg hkey, if_neg hkey, ih]

theorem members_lawful : Keyed.Lawful (fun _ => True) Prod.fst (combineMembers texts) where
  kind := fun _ _ _ _ _ => trivial
  key_eq := fun _ _ _ _ _ => rfl

/-- Every value of the members is taken in as it is where there is none before. -/
def Raw (texts : Texts) (members : Members) : Prop :=
  ∀ member ∈ members, mergedValue texts member.1 none member.2 = member.2

theorem deepMerge_eq (h : Raw texts n) (m : Members) :
    deepMerge texts m n = Keyed.putAll Prod.fst (combineMembers texts) m n := by
  induction n generalizing m with
  | nil => rfl
  | cons member n ih =>
    obtain ⟨key, value⟩ := member
    unfold Raw at h
    rw [List.forall_mem_cons] at h
    rw [deepMerge, set_eq_put m h.1, ih h.2]
    rfl

/-! ## The identity of an entry -/

/-- Python's text of a value that counts as true is not empty. -/
def TruthyTexts (texts : Texts) : Prop := ∀ value : Json, value.truthy = true → texts.str value ≠ ""

theorem get?_deepMerge_of_plain (hn : (n.map Prod.fst).Nodup) (hkind : listKind? key = none)
    (hplain : ∀ inner, Json.get? n key ≠ some (.obj inner)) (m : Members) :
    Json.get? (deepMerge texts m n) key = (Json.get? n key).or (Json.get? m key) := by
  rw [get?_deepMerge hn]
  cases hvalue : Json.get? n key with
  | none => rfl
  | some value =>
    rw [Option.some_or, Option.some.injEq]
    cases value with
    | obj inner => exact absurd hvalue (hplain inner)
    | arr items => rw [mergedValue, hkind]
    | null => rfl
    | bool b => rfl
    | num q => rfl
    | str s => rfl

theorem Plain.deepMerge (hm : Plain m) (hn : Plain n) (hnodup : (n.map Prod.fst).Nodup) :
    Plain (deepMerge texts m n) := by
  have hfield : ∀ field, listKind? field = none → (∀ inner, Json.get? m field ≠ some (.obj inner)) →
      (∀ inner, Json.get? n field ≠ some (.obj inner)) →
      ∀ inner, Json.get? (LocalizationProgress.deepMerge texts m n) field ≠ some (.obj inner) := by
    intro field hkind hm hn inner h
    rw [get?_deepMerge_of_plain hnodup hkind hn] at h
    cases hvalue : Json.get? n field with
    | none =>
      rw [hvalue, Option.none_or] at h
      exact hm inner h
    | some value =>
      rw [hvalue, Option.some_or] at h
      exact hn inner (hvalue.trans h)
  exact ⟨hfield _ rfl hm.stage hn.stage, hfield _ rfl hm.source hn.source,
    hfield _ rfl hm.candidateNumber hn.candidateNumber, hfield _ rfl hm.index hn.index⟩

theorem orElse_some (value : Json) (default : Json) :
    orElse (some value) default = if value.truthy then value else default := rfl

theorem stageText_or (htexts : TruthyTexts texts) {stage source stage' source' : Option Json}
    (h : texts.str (orElse stage (orElse source (.str ""))) = texts.str (orElse stage' (orElse source' (.str "")))) :
    texts.str (orElse (stage'.or stage) (orElse (source'.or source) (.str ""))) =
      texts.str (orElse stage' (orElse source' (.str ""))) := by
  have hnothing : orElse none (.str "") = .str "" := rfl
  cases stage' with
  | none =>
    rw [Option.none_or]
    cases source' with
    | none =>
      rw [Option.none_or]
      exact h
    | some value =>
      rw [Option.some_or]
      -- the older entry's stage names it, or the newer one's source does
      cases stage with
      | none => rfl
      | some named =>
        rw [orElse_some] at h ⊢
        cases htruth : named.truthy with
        | true =>
          rw [htruth] at h
          exact h
        | false => rfl
  | some named =>
    rw [Option.some_or, orElse_some, orElse_some]
    cases htruth : named.truthy with
    | true => rfl
    | false =>
      cases source' with
      | some value => rfl
      | none =>
        rw [orElse_some, htruth] at h
        simp only [Bool.false_eq_true, if_false, hnothing, texts.str_str] at h ⊢
        rw [Option.none_or]
        cases stage with
        | none => exact h
        | some older =>
          rw [orElse_some] at h
          cases holder : older.truthy with
          | true =>
            rw [holder, if_pos rfl] at h
            exact absurd h (htexts older holder)
          | false =>
            rw [holder, if_neg Bool.false_ne_true] at h
            exact h

theorem number_or {number index number' index' : Option Json}
    (hnew : number'.getD (index'.getD .null) ≠ .null) :
    (number'.or number).getD ((index'.or index).getD .null) = number'.getD (index'.getD .null) ∨
      (number'.or number).getD ((index'.or index).getD .null) = number.getD (index.getD .null) := by
  cases number' with
  | some value => exact Or.inl rfl
  | none =>
    cases number with
    | some value => exact Or.inr rfl
    | none =>
      cases index' with
      | some value => exact Or.inl rfl
      | none => exact absurd rfl hnew

theorem attempt_eq_some {number : Json} {stage : String} {id : Identity} :
    (match number with
      | .null => none
      | number => some (Identity.attempt stage (texts.str number))) = some id ↔
      number ≠ .null ∧ Identity.attempt stage (texts.str number) = id := by
  cases number <;> simp

theorem identity_deepMerge (htexts : TruthyTexts texts) (hn : Plain n) (hnodup : (n.map Prod.fst).Nodup)
    {id : Identity} (hidm : identity texts kind m = some id) (hidn : identity texts kind n = some id) :
    identity texts kind (deepMerge texts m n) = some id := by
  unfold identity at hidm hidn ⊢
  rw [get?_deepMerge_of_plain hnodup rfl hn.stage, get?_deepMerge_of_plain hnodup rfl hn.source,
    get?_deepMerge_of_plain hnodup rfl hn.candidateNumber, get?_deepMerge_of_plain hnodup rfl hn.index]
  cases kind with
  | stages =>
    dsimp only at hidn ⊢
    cases hstage : Json.get? n "stage" with
    | none =>
      rw [hstage] at hidn
      have hempty : texts.str (orElse none (.str "")) = "" := texts.str_str ""
      rw [if_pos hempty] at hidn
      exact nomatch hidn
    | some stage =>
      rw [hstage] at hidn
      exact hidn
  | attempts =>
    dsimp only at hidm hidn ⊢
    obtain ⟨hnumberm, rfl⟩ := attempt_eq_some.mp hidm
    obtain ⟨hnumbern, hid⟩ := attempt_eq_some.mp hidn
    refine attempt_eq_some.mpr ?_
    obtain ⟨hstage, hnumber⟩ := Identity.attempt.inj hid
    rw [stageText_or htexts hstage.symm, hstage]
    rcases @number_or (Json.get? m "candidate_number") (Json.get? m "index") _ _ hnumbern with
      hnewer | holder
    · rw [hnewer, hnumber]
      exact ⟨hnumbern, rfl⟩
    · rw [holder]
      exact ⟨hnumberm, rfl⟩

/-! ## Lists of entries -/

/-- An entry whose keys are all different. -/
def Sound (texts : Texts) (kind : ListKind) (item : Json) : Prop :=
  Entry texts kind item ∧ ((membersOf item).map Prod.fst).Nodup

theorem entries_lawful (htexts : TruthyTexts texts) (kind : ListKind) :
    Keyed.Lawful (Sound texts kind) (identity? texts kind) (combineEntries texts) := by
  have hcombine : ∀ y x, Sound texts kind y → Sound texts kind x → identity? texts kind y = identity? texts kind x →
      Sound texts kind (combineEntries texts y x) ∧
        identity? texts kind (combineEntries texts y x) = identity? texts kind x := by
    rintro - - ⟨⟨m, id, rfl, hm, hidm⟩, hkeysm⟩ ⟨⟨n, id', rfl, hn, hidn⟩, hkeysn⟩ hsame
    have hid : id = id' := Option.some.inj (hidm.symm.trans (hsame.trans hidn))
    subst hid
    have hmerged := identity_deepMerge htexts hn hkeysn hidm hidn
    refine ⟨⟨⟨_, id, rfl, hm.deepMerge hn hkeysn, hmerged⟩, nodup_deepMerge hkeysm n⟩, ?_⟩
    exact hmerged.trans hidn.symm
  exact ⟨fun y x hy hx h => (hcombine y x hy hx h).1, fun y x hy hx h => (hcombine y x hy hx h).2⟩

/-- What `positions` holds: where each identity is. -/
def Places (texts : Texts) (kind : ListKind) (items : List Json) (positions : List (Identity × ℕ)) : Prop :=
  ∀ id i, (id, i) ∈ positions ↔ ∃ item, items[i]? = some item ∧ identity? texts kind item = some id

theorem places_positionsOf (kind : ListKind) (items : List Json) :
    Places texts kind items (positionsOf texts kind items) := by
  intro id i
  unfold positionsOf
  rw [List.mem_reverse, List.mem_filterMap]
  constructor
  · rintro ⟨⟨item, index⟩, hmem, hmap⟩
    obtain ⟨id', hid, hpair⟩ := Option.map_eq_some_iff.mp hmap
    cases hpair
    exact ⟨item, List.mk_mem_zipIdx_iff_getElem?.mp hmem, hid⟩
  · rintro ⟨item, hitem, hid⟩
    exact ⟨(item, i), List.mk_mem_zipIdx_iff_getElem?.mpr hitem, Option.map_eq_some_iff.mpr ⟨id, hid, rfl⟩⟩

section Places

variable {positions : List (Identity × ℕ)} {id : Identity} {i : ℕ}

theorem Places.getElem? (h : Places texts kind items positions) (hlookup : positions.lookup id = some i) :
    ∃ item, items[i]? = some item ∧ identity? texts kind item = some id := by
  obtain ⟨before, after, hsplit, -⟩ := List.lookup_eq_some_iff.mp hlookup
  refine (h id i).mp ?_
  rw [hsplit]
  exact List.mem_append_right _ List.mem_cons_self

theorem Places.notMem (h : Places texts kind items positions) (hlookup : positions.lookup id = none) :
    some id ∉ items.map (identity? texts kind) := by
  intro hmem
  obtain ⟨item, hitem, hid⟩ := List.mem_map.mp hmem
  obtain ⟨i, hi⟩ := List.getElem?_of_mem hitem
  have hplace := (h id i).mpr ⟨item, hi, hid⟩
  exact absurd rfl (bne_iff_ne.mp (List.lookup_eq_none_iff.mp hlookup _ hplace))

theorem Places.append {item : Json} (h : Places texts kind items positions)
    (hid : identity? texts kind item = some id) :
    Places texts kind (items ++ [item]) ((id, items.length) :: positions) := by
  intro id' i
  rw [List.mem_cons, h id' i, List.getElem?_append]
  constructor
  · rintro (hpair | ⟨item', hitem', hid'⟩)
    · cases hpair
      exact ⟨item, by simp, hid⟩
    · have hlt := (List.getElem?_eq_some_iff.mp hitem').1
      exact ⟨item', by rw [if_pos hlt]; exact hitem', hid'⟩
  · rintro ⟨item', hitem', hid'⟩
    split at hitem'
    · exact Or.inr ⟨item', hitem', hid'⟩
    · next hge =>
      rw [List.getElem?_singleton] at hitem'
      split at hitem'
      · next hzero =>
        cases hitem'
        have hi : i = items.length := by omega
        rw [hi, Option.some.inj (hid'.symm.trans hid)]
        exact Or.inl rfl
      · exact nomatch hitem'

theorem Places.set {item old : Json} (h : Places texts kind items positions) (hold : items[i]? = some old)
    (hid : identity? texts kind item = identity? texts kind old) :
    Places texts kind (items.set i item) positions := by
  intro id' j
  rw [h id' j, List.getElem?_set]
  by_cases hij : i = j
  · subst hij
    have hlt := (List.getElem?_eq_some_iff.mp hold).1
    rw [if_pos rfl, if_pos hlt, hold]
    simp [hid]
  · rw [if_neg hij]

end Places

theorem mergeList_eq (htexts : TruthyTexts texts) {positions : List (Identity × ℕ)}
    (hplaces : Places texts kind items positions) (hitems : ∀ item ∈ items, Sound texts kind item)
    (hnodup : (items.map (identity? texts kind)).Nodup) (hnew : ∀ item ∈ new, Sound texts kind item) :
    mergeList texts kind items positions new =
      Keyed.putAll (identity? texts kind) (combineEntries texts) items new := by
  have law := entries_lawful htexts kind
  induction new generalizing items positions with
  | nil => rfl
  | cons item new ih =>
    rw [List.forall_mem_cons] at hnew
    obtain ⟨hitem, hnew⟩ := hnew
    have hput := law.forall_put hitems hitem
    have hkeys := law.nodup_put hitems hitem hnodup
    obtain ⟨⟨n, id, rfl, -, hid⟩, -⟩ := id hitem
    have hid' : identity? texts kind (.obj n) = some id := hid
    rw [mergeList, hid]
    dsimp only
    have hstep : Keyed.putAll (identity? texts kind) (combineEntries texts) items (.obj n :: new) =
        Keyed.putAll (identity? texts kind) (combineEntries texts)
          (Keyed.put (identity? texts kind) (combineEntries texts) items (.obj n)) new := rfl
    rw [hstep]
    cases hlookup : positions.lookup id with
    | none =>
      have hnotMem := hplaces.notMem hlookup
      rw [← hid'] at hnotMem
      rw [Keyed.put_of_notMem hnotMem] at hput hkeys ⊢
      exact ih (hplaces.append hid') hput hkeys hnew
    | some index =>
      obtain ⟨old, hold, hidold⟩ := hplaces.getElem? hlookup
      have hsame : identity? texts kind old = identity? texts kind (.obj n) := hidold.trans hid'.symm
      have hcombined : combineEntries texts old (.obj n) = .obj (deepMerge texts (membersOf (items.getD index .null)) n) := by
        rw [List.getD_eq_getElem?_getD, hold]
        rfl
      have hsound := hitems old (List.mem_of_getElem? hold)
      have hkept := law.key_eq old (.obj n) hsound hitem hsame
      rw [Keyed.put_of_getElem hnodup hold hsame] at hput hkeys ⊢
      rw [hcombined] at hput hkeys hkept ⊢
      exact ih (hplaces.set hold (hkept.trans hsame.symm)) hput hkeys hnew

theorem mergeList_nil (htexts : TruthyTexts texts) (hnew : ∀ item ∈ new, Sound texts kind item)
    (hnodup : (new.map (identity? texts kind)).Nodup) :
    mergeList texts kind [] (positionsOf texts kind []) new = new := by
  rw [mergeList_eq htexts (places_positionsOf kind []) nofun List.nodup_nil hnew, Keyed.putAll_nil hnodup]

/-! ## Tidy records -/

theorem Tidy.keys (h : Tidy texts m) : (m.map Prod.fst).Nodup := by
  cases h with
  | mk keys _ _ _ => exact keys

theorem Tidy.object {inner : Members} (h : Tidy texts m) (hmem : (key, .obj inner) ∈ m) : Tidy texts inner := by
  cases h with
  | mk _ objects _ _ => exact objects key inner hmem

theorem Tidy.list (h : Tidy texts m) (hmem : (kind.key, .arr items) ∈ m) : Identified texts kind items := by
  cases h with
  | mk _ _ lists _ => exact lists kind items hmem

theorem Tidy.entry {inner : Members} (h : Tidy texts m) (hmem : (kind.key, .arr items) ∈ m)
    (hinner : .obj inner ∈ items) : Tidy texts inner := by
  cases h with
  | mk _ _ _ entries => exact entries kind items inner hmem hinner

theorem Tidy.sound (h : Tidy texts m) (hmem : (kind.key, .arr items) ∈ m) : ∀ item ∈ items, Sound texts kind item := by
  intro item hitem
  have hentry := (h.list hmem).entry item hitem
  refine ⟨hentry, ?_⟩
  obtain ⟨inner, id, rfl, -, -⟩ := hentry
  exact (h.entry hmem hitem).keys

theorem mem_of_get? (h : Json.get? m key = some value) : (key, value) ∈ m := by
  obtain ⟨member, hfound, rfl⟩ := Option.map_eq_some_iff.mp h
  have hkey := List.find?_some hfound
  rw [← of_decide_eq_true hkey]
  exact List.mem_of_find?_eq_some hfound

theorem get?_of_mem (hnodup : (m.map Prod.fst).Nodup) (h : (key, value) ∈ m) : Json.get? m key = some value := by
  have hget := Keyed.get_of_mem hnodup h
  exact Option.map_eq_some_iff.mpr ⟨_, hget, rfl⟩

theorem Tidy.mergedValue_none (htexts : TruthyTexts texts) (h : Tidy texts n) (hmem : (key, value) ∈ n) :
    mergedValue texts key none value = value := by
  cases value with
  | obj inner => rfl
  | arr items =>
    rw [mergedValue]
    split
    · next kind hkind =>
      rw [listKind?_eq_some hkind] at hmem
      have hnothing : itemsOf none = [] := rfl
      rw [hnothing, mergeList_nil htexts (h.sound hmem) (h.list hmem).nodup]
    · rfl
  | null => rfl
  | bool b => rfl
  | num q => rfl
  | str s => rfl

theorem Tidy.raw (htexts : TruthyTexts texts) (h : Tidy texts n) : Raw texts n :=
  fun _ hmem => h.mergedValue_none htexts hmem

theorem mergedValue_list (htexts : TruthyTexts texts) (old : Option Json)
    (hsound : ∀ item ∈ new, Sound texts kind item) (hitems : ∀ item ∈ itemsOf old, Sound texts kind item)
    (hnodup : ((itemsOf old).map (identity? texts kind)).Nodup) :
    mergedValue texts kind.key old (.arr new) =
      .arr (Keyed.putAll (identity? texts kind) (combineEntries texts) (itemsOf old) new) := by
  rw [mergedValue, listKind?_key]
  exact congrArg Json.arr (mergeList_eq htexts (places_positionsOf kind _) hitems hnodup hsound)

theorem Tidy.itemsOf (h : Tidy texts m) (kind : ListKind) :
    (∀ item ∈ LocalizationProgress.itemsOf (Json.get? m kind.key), Sound texts kind item) ∧
      ((LocalizationProgress.itemsOf (Json.get? m kind.key)).map (identity? texts kind)).Nodup := by
  unfold LocalizationProgress.itemsOf
  split
  · next items hitems =>
    have hmem := mem_of_get? hitems
    exact ⟨h.sound hmem, (h.list hmem).nodup⟩
  · exact ⟨nofun, List.nodup_nil⟩

theorem Tidy.entry_itemsOf {inner : Members} (h : Tidy texts m)
    (hinner : .obj inner ∈ LocalizationProgress.itemsOf (Json.get? m kind.key)) : Tidy texts inner := by
  unfold LocalizationProgress.itemsOf at hinner
  split at hinner
  · next items hitems => exact h.entry (mem_of_get? hitems) hinner
  · exact absurd hinner List.not_mem_nil

theorem mem_putAll (htexts : TruthyTexts texts) (hitems : ∀ item ∈ items, Sound texts kind item)
    (hnodup : (items.map (identity? texts kind)).Nodup) (hnew : ∀ item ∈ new, Sound texts kind item)
    (hnodup' : (new.map (identity? texts kind)).Nodup)
    (hvalue : value ∈ Keyed.putAll (identity? texts kind) (combineEntries texts) items new) :
    value ∈ items ∨ value ∈ new ∨ ∃ old ∈ items, ∃ item ∈ new, value = combineEntries texts old item := by
  have law := entries_lawful htexts kind
  have hget := Keyed.get_of_mem (law.nodup_putAll hitems hnew hnodup hnodup') hvalue
  rw [law.get_putAll hitems hnew hnodup'] at hget
  cases hold : Keyed.get (identity? texts kind) (identity? texts kind value) items with
  | none =>
    rw [hold] at hget
    exact Or.inr (Or.inl (Keyed.mem_of_get hget))
  | some old =>
    cases hitem : Keyed.get (identity? texts kind) (identity? texts kind value) new with
    | none =>
      rw [hold, hitem] at hget
      cases hget
      exact Or.inl (Keyed.mem_of_get hold)
    | some item =>
      rw [hold, hitem] at hget
      cases hget
      exact Or.inr (Or.inr ⟨old, Keyed.mem_of_get hold, item, Keyed.mem_of_get hitem, rfl⟩)

theorem mergedValue_obj (key : String) (old : Option Json) (n : Members) :
    (∃ m, old = some (.obj m) ∧ mergedValue texts key old (.obj n) = .obj (deepMerge texts m n)) ∨
      (∀ m, old ≠ some (.obj m)) ∧ mergedValue texts key old (.obj n) = .obj n := by
  cases old with
  | none => exact Or.inr ⟨nofun, rfl⟩
  | some old =>
    cases old with
    | obj m => exact Or.inl ⟨m, rfl, rfl⟩
    | null => exact Or.inr ⟨nofun, rfl⟩
    | bool b => exact Or.inr ⟨nofun, rfl⟩
    | num q => exact Or.inr ⟨nofun, rfl⟩
    | str s => exact Or.inr ⟨nofun, rfl⟩
    | arr items => exact Or.inr ⟨nofun, rfl⟩

theorem mergedValue_eq_obj {old : Option Json} {inner : Members} (h : mergedValue texts key old value = .obj inner) :
    ∃ n, value = .obj n ∧ ((∃ m, old = some (.obj m) ∧ inner = deepMerge texts m n) ∨ inner = n) := by
  cases value with
  | obj n =>
    refine ⟨n, rfl, ?_⟩
    rcases @mergedValue_obj texts key old n with ⟨m, hm, hmerged⟩ | ⟨-, hmerged⟩
    · exact Or.inl ⟨m, hm, Json.obj.inj (h.symm.trans hmerged)⟩
    · exact Or.inr (Json.obj.inj (h.symm.trans hmerged))
  | arr items =>
    rw [mergedValue] at h
    split at h
    · exact nomatch h
    · exact nomatch h
  | null => exact nomatch h
  | bool b => exact nomatch h
  | num q => exact nomatch h
  | str s => exact nomatch h

theorem mergedValue_eq_arr {old : Option Json} (h : mergedValue texts key old value = .arr items) :
    ∃ new, value = .arr new := by
  cases value with
  | arr new => exact ⟨new, rfl⟩
  | obj n =>
    rcases @mergedValue_obj texts key old n with ⟨m, hm, hmerged⟩ | ⟨-, hmerged⟩
    · exact nomatch h.symm.trans hmerged
    · exact nomatch h.symm.trans hmerged
  | null => exact nomatch h
  | bool b => exact nomatch h
  | num q => exact nomatch h
  | str s => exact nomatch h

/-- **The merged record is tidy.** -/
theorem Tidy.deepMerge (htexts : TruthyTexts texts) (hm : Tidy texts m) (hn : Tidy texts n) :
    Tidy texts (deepMerge texts m n) := by
  induction hn generalizing m with
  | @mk n keys objects lists entries ihobjects ihentries =>
    have hn : Tidy texts n := Tidy.mk keys objects lists entries
    have hnodup := @nodup_deepMerge texts _ hm.keys n
    -- what a key holds was there, is new, or is merged
    have hcases : ∀ key value, (key, value) ∈ LocalizationProgress.deepMerge texts m n →
        (key, value) ∈ m ∨ ∃ new, (key, new) ∈ n ∧ value = mergedValue texts key (Json.get? m key) new := by
      intro key value hmem
      have hget := get?_of_mem hnodup hmem
      rw [get?_deepMerge keys] at hget
      cases hnew : Json.get? n key with
      | none =>
        rw [hnew] at hget
        exact Or.inl (mem_of_get? hget)
      | some new =>
        rw [hnew] at hget
        exact Or.inr ⟨new, mem_of_get? hnew, (Option.some.inj hget).symm⟩
    have hlist : ∀ kind new, (kind.key, .arr new) ∈ n →
        mergedValue texts kind.key (Json.get? m kind.key) (.arr new) = .arr (Keyed.putAll (identity? texts kind)
          (combineEntries texts) (LocalizationProgress.itemsOf (Json.get? m kind.key)) new) := by
      intro kind new hmem
      exact mergedValue_list htexts _ (hn.sound hmem) (hm.itemsOf kind).1 (hm.itemsOf kind).2
    refine Tidy.mk hnodup ?_ ?_ ?_
    · intro key inner hmem
      rcases hcases _ _ hmem with hold | ⟨value, hvalue, hmerged⟩
      · exact hm.object hold
      · obtain ⟨n', rfl, ⟨m', hm', rfl⟩ | rfl⟩ := mergedValue_eq_obj hmerged.symm
        · exact ihobjects key n' hvalue (hm.object (mem_of_get? hm'))
        · exact objects key _ hvalue
    · intro kind items hmem
      rcases hcases _ _ hmem with hold | ⟨value, hvalue, hmerged⟩
      · exact hm.list hold
      · obtain ⟨new, rfl⟩ := mergedValue_eq_arr hmerged.symm
        rw [hlist kind new hvalue] at hmerged
        cases hmerged
        have law := entries_lawful htexts kind
        refine ⟨fun item hitem => ?_, ?_⟩
        · exact (law.forall_putAll (hm.itemsOf kind).1 (hn.sound hvalue) item hitem).1
        · exact law.nodup_putAll (hm.itemsOf kind).1 (hn.sound hvalue) (hm.itemsOf kind).2 (lists kind new hvalue).nodup
    · intro kind items inner hmem hinner
      rcases hcases _ _ hmem with hold | ⟨value, hvalue, hmerged⟩
      · exact hm.entry hold hinner
      · obtain ⟨new, rfl⟩ := mergedValue_eq_arr hmerged.symm
        rw [hlist kind new hvalue] at hmerged
        cases hmerged
        rcases mem_putAll htexts (hm.itemsOf kind).1 (hm.itemsOf kind).2 (hn.sound hvalue)
          (lists kind new hvalue).nodup hinner with hold | hnew | ⟨old, hold, item, hitem, hcombined⟩
        · exact hm.entry_itemsOf hold
        · exact entries kind new inner hvalue hnew
        · obtain ⟨n', id, rfl, -, -⟩ := (lists kind new hvalue).entry item hitem
          obtain ⟨m', id', rfl, -, -⟩ := ((hm.itemsOf kind).1 old hold).1
          cases hcombined
          exact ihentries kind new n' hvalue hitem (hm.entry_itemsOf hold)

/-! ## The same record again -/

theorem deepMerge_nil (htexts : TruthyTexts texts) (hn : Tidy texts n) : deepMerge texts [] n = n := by
  rw [deepMerge_eq (hn.raw htexts), Keyed.putAll_nil hn.keys]

/-- **To merge the same record again changes nothing.** -/
theorem deepMerge_deepMerge (htexts : TruthyTexts texts) (hm : Tidy texts m) (hn : Tidy texts n) :
    deepMerge texts (deepMerge texts m n) n = deepMerge texts m n := by
  induction hn generalizing m with
  | @mk n keys objects lists entries ihobjects ihentries =>
    have hn : Tidy texts n := Tidy.mk keys objects lists entries
    have hself : ∀ inner, Tidy texts inner →
        (∀ {m}, Tidy texts m → deepMerge texts (deepMerge texts m inner) inner = deepMerge texts m inner) →
        deepMerge texts inner inner = inner := by
      intro inner hinner ih
      have hnothing := ih (tidy_nil texts)
      rw [deepMerge_nil htexts hinner] at hnothing
      exact hnothing
    -- an old value, or none, with the same new value twice
    have hvalue : ∀ key value, (key, value) ∈ n → ∀ old, (∀ v, old = some v → (key, v) ∈ m) →
        mergedValue texts key (some (mergedValue texts key old value)) value = mergedValue texts key old value := by
      intro key value hmem old hold
      cases value with
      | obj inner =>
        rcases @mergedValue_obj texts key old inner with ⟨m', rfl, hmerged⟩ | ⟨-, hmerged⟩
        · rw [hmerged]
          exact congrArg Json.obj (ihobjects key inner hmem (hm.object (hold _ rfl)))
        · rw [hmerged]
          exact congrArg Json.obj (hself inner (objects key inner hmem) (ihobjects key inner hmem))
      | arr new =>
        cases hkind : listKind? key with
        | none => rw [mergedValue, mergedValue, hkind]
        | some kind =>
          obtain rfl := listKind?_eq_some hkind
          have law := entries_lawful htexts kind
          obtain ⟨hitems, hnodup, htidy⟩ : (∀ item ∈ itemsOf old, Sound texts kind item) ∧
              ((itemsOf old).map (identity? texts kind)).Nodup ∧
              ∀ inner, .obj inner ∈ itemsOf old → Tidy texts inner := by
            unfold itemsOf
            split
            · next items =>
              have hmem' := hold _ rfl
              exact ⟨hm.sound hmem', (hm.list hmem').nodup, fun inner => hm.entry hmem'⟩
            · exact ⟨nofun, List.nodup_nil, nofun⟩
          have hsound := hn.sound hmem
          have hnodup' := (lists kind new hmem).nodup
          have hentry : ∀ item ∈ new, ∃ inner, item = .obj inner ∧ .obj inner ∈ new := by
            intro item hitem
            obtain ⟨inner, id, rfl, -, -⟩ := (lists kind new hmem).entry item hitem
            exact ⟨inner, rfl, hitem⟩
          have hagain := mergedValue_list htexts
            (some (.arr (Keyed.putAll (identity? texts kind) (combineEntries texts) (itemsOf old) new))) hsound
            (law.forall_putAll hitems hsound) (law.nodup_putAll hitems hsound hnodup hnodup')
          rw [mergedValue_list htexts old hsound hitems hnodup, hagain]
          refine congrArg Json.arr (law.putAll_putAll hitems hsound hnodup' ?_ ?_)
          · intro item hitem
            obtain ⟨inner, rfl, hinner⟩ := hentry item hitem
            exact congrArg Json.obj
              (hself inner (entries kind new inner hmem hinner) (ihentries kind new inner hmem hinner))
          · intro item hitem older holder _
            obtain ⟨inner, rfl, hinner⟩ := hentry item hitem
            obtain ⟨m', id, rfl, -, -⟩ := (hitems older holder).1
            exact congrArg Json.obj (ihentries kind new inner hmem hinner (htidy m' holder))
      | null => rfl
      | bool b => rfl
      | num q => rfl
      | str s => rfl
    rw [deepMerge_eq (hn.raw htexts), deepMerge_eq (hn.raw htexts)]
    refine members_lawful.putAll_putAll (fun _ _ => trivial) (fun _ _ => trivial) keys ?_ ?_
    · rintro ⟨key, value⟩ hmem
      have hagain := hvalue key value hmem none nofun
      rw [hn.mergedValue_none htexts hmem] at hagain
      exact Prod.ext rfl hagain
    · rintro ⟨key, value⟩ hmem ⟨key', old⟩ hold hkey
      obtain rfl : key' = key := hkey
      refine Prod.ext rfl (hvalue key' value hmem (some old) ?_)
      rintro v hv
      cases hv
      exact hold

end LocalizationProgress

end RoamerX
