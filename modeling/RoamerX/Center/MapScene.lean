import RoamerX.Lib.EveryNth
import RoamerX.Lib.Excepts
import RoamerX.Lib.Strip

set_option autoImplicit false

/-! # Decimating a scene cloud

`map_scene_service.py` thins a point cloud out for the browser: every k-th record of a binary or an ascii PCD, under a
header that declares how many are left. A byte is the character of its value. -/

namespace RoamerX

namespace MapScene

open EveryNth

abbrev Bytes := List Char

inductive SceneError
  | artifact (message : String)
  /-- a text is not a whole number -/
  | value
  /-- a quotient is too large for a `double` -/
  | overflow
  deriving DecidableEq

/-! ## Headers -/

def isSpace (c : Char) : Bool :=
  c ∈ [' ', '\t', '\n', '\x0b', '\x0c', '\r', '\x1c', '\x1d', '\x1e', '\x1f']

def decode (raw : Bytes) : List Char := (raw.filter fun c => decide (c.toNat < 128)).strip isSpace

/-- The first word of a line in capitals. -/
def keyOf (text : List Char) : List Char := (text.takeWhile (· != ' ')).map Char.toUpper

def valueOf (text : List Char) : List Char := ((text.dropWhile (· != ' ')).drop 1).strip isSpace

/-- What `_parse_pcd_header` keeps of a line. -/
def entry (raw : Bytes) : Option (List Char × List Char) :=
  let text := decode raw
  if text = [] ∨ text.head? = some '#' then none else some (keyOf text, valueOf text)

/-- `header.get(key)`: of two lines with one key the later counts. -/
def get (key : String) (lines : List Bytes) : Option (List Char) :=
  (((lines.filterMap entry).filter fun e => e.1 == key.toList).getLast?).map Prod.snd

/-- The value of a text of digits, that may be in groups. -/
def decimal (text : List Char) : Option ℕ :=
  let groups := text.splitOn '_'
  if groups.all (fun group => !group.isEmpty && group.all Char.isDigit) then
    some (Nat.ofDigitChars 10 groups.flatten 0)
  else
    none

/-- `int(text)`. -/
def toInt (text : List Char) : Option ℤ :=
  match text.strip isSpace with
  | '-' :: digits => (decimal digits).map fun n : ℕ => -(n : ℤ)
  | '+' :: digits => (decimal digits).map fun n : ℕ => (n : ℤ)
  | digits => (decimal digits).map fun n : ℕ => (n : ℤ)

/-- `int(header.get("POINTS") or header.get("WIDTH") or 0)`. -/
def declaredPoints (lines : List Bytes) : Option ℤ :=
  match ([get "POINTS" lines, get "WIDTH" lines].filterMap id).find? (fun text => !text.isEmpty) with
  | none => some 0
  | some text => toInt text

def split (text : List Char) : List (List Char) := (text.splitOnP isSpace).filter fun word => !word.isEmpty

/-- The sizes and the counts of the fields of a point. -/
def pointLayout (lines : List Bytes) : Option (List ℤ × List ℤ) := do
  let sizes ← (split ((get "SIZE" lines).getD [])).mapM toInt
  let counts ← (split ((get "COUNT" lines).getD [])).mapM toInt
  return (sizes, if counts = [] then List.replicate sizes.length 1 else counts)

def pointStep (lines : List Bytes) : Except SceneError ℕ :=
  match pointLayout lines with
  | none => .error .value
  | some (sizes, counts) =>
    if sizes = [] ∨ sizes.length ≠ counts.length then
      .error (.artifact "PCD SIZE/COUNT fields are invalid")
    else
      let step := (List.zipWith (· * ·) sizes counts).sum
      if step ≤ 0 ∨ 4096 < step then .error (.artifact "PCD point step is invalid") else .ok step.toNat

/-- A line of `_rewrite_header`. -/
def rewriteLine (pointCount : ℤ) (raw : Bytes) : Bytes :=
  let text := decode raw
  let key := if text = [] then [] else keyOf text
  if key = "WIDTH".toList then "WIDTH ".toList ++ (toString pointCount).toList ++ ['\n']
  else if key = "HEIGHT".toList then "HEIGHT 1\n".toList
  else if key = "POINTS".toList then "POINTS ".toList ++ (toString pointCount).toList ++ ['\n']
  else raw

def rewriteHeader (lines : List Bytes) (pointCount : ℤ) : List Bytes := lines.map (rewriteLine pointCount)

/-! ## Sampling -/

def ceil (points : ℤ) (count : ℕ) : Except SceneError ℤ := (ceilQuotient points count).elim (.error .overflow) .ok

/-- `max(1, math.ceil(points / max_points))`. -/
def stride (points : ℤ) (maxPoints : ℕ) : Except SceneError ℕ := do
  let quotient ← ceil points maxPoints
  return (max 1 quotient).toNat

/-- `chunk[offset:offset + point_step]`. -/
def slice (step : ℕ) (chunk : Bytes) (index : ℕ) : Bytes := (chunk.drop (index * step)).take step

/-- What the loop over the blocks has read and written. -/
structure Progress where
  globalIndex : ℕ
  written : ℕ
  target : Bytes

/-- One block, unless no whole record is left. -/
def copyBlock (blockPoints step stride points : ℕ) (source : Bytes) (progress : Progress) : Option (Bytes × Progress) :=
  let wanted := min blockPoints (points - progress.globalIndex)
  let chunk := source.take (wanted * step)
  let records := chunk.length / step
  if records = 0 then none
  else
    let first := (-(progress.globalIndex : ℤ)) % stride
    let indices := range first.toNat records stride
    some (source.drop (wanted * step),
      { globalIndex := progress.globalIndex + records
        written := progress.written + indices.length
        target := progress.target ++ indices.flatMap (slice step chunk) })

/-- `while global_index < points`; every block that is copied leaves fewer points, so `points` of them are enough. -/
@[simp] def copyBlocks (blockPoints step stride points : ℕ) : ℕ → Bytes → Progress → Progress
  | 0, _, progress => progress
  | fuel + 1, source, progress =>
    if progress.globalIndex < points then
      match copyBlock blockPoints step stride points source progress with
      | none => progress
      | some (source, progress) => copyBlocks blockPoints step stride points fuel source progress
    else
      progress

/-- `_copy_binary_sampled`; the source reads blocks of 2 MiB. -/
def copyBinarySampled (blockBytes : ℕ) (source : Bytes) (lines : List Bytes) (maxPoints : ℕ) : Except SceneError Bytes :=
  match declaredPoints lines with
  | none => .error .value
  | some points =>
    if points ≤ 0 then .error (.artifact "PCD point count is invalid")
    else do
      let step ← pointStep lines
      let stride ← stride points maxPoints
      let selected ← ceil points stride
      let blockPoints := max 1 (blockBytes / step)
      let progress := copyBlocks blockPoints step stride points.toNat points.toNat source ⟨0, 0, []⟩
      if progress.globalIndex ≠ points.toNat ∨ (progress.written : ℤ) ≠ selected then
        .error (.artifact "PCD binary payload is truncated")
      else
        return (rewriteHeader lines selected).flatten ++ progress.target

/-- `_copy_ascii_sampled`; every line is a record. -/
def copyAsciiSampled (source : List Bytes) (lines : List Bytes) (maxPoints : ℕ) : Except SceneError Bytes :=
  match declaredPoints lines with
  | none => .error .value
  | some points => do
    let stride ← stride points maxPoints
    let selected ← ceil points stride
    let written := source.zipIdx.filter fun (_, index) => index % stride == 0
    if (written.length : ℤ) ≠ selected then
      .error (.artifact "PCD ASCII payload is truncated")
    else
      return (rewriteHeader lines selected).flatten ++ (written.map Prod.fst).flatten

/-! ## The blocks of a binary payload -/

theorem slice_take {step wanted index : ℕ} (h : index < wanted) (source : Bytes) :
    slice step (source.take (wanted * step)) index = slice step source index := by
  have hfits : step ≤ wanted * step - index * step := by
    rw [← Nat.sub_mul]
    exact Nat.le_mul_of_pos_left step (by omega)
  rw [slice, slice, List.drop_take, List.take_take, Nat.min_eq_left hfits]

theorem slice_drop {step wanted index : ℕ} (h : wanted ≤ index) (source : Bytes) :
    slice step (source.drop (wanted * step)) (index - wanted) = slice step source index := by
  rw [slice, slice, List.drop_drop, ← Nat.add_mul, Nat.add_sub_cancel' h]

theorem records_eq {step : ℕ} (hstep : 0 < step) (wanted : ℕ) (source : Bytes) :
    (source.take (wanted * step)).length / step = min wanted (source.length / step) := by
  rw [List.length_take]
  rcases Nat.le_total (wanted * step) source.length with h | h
  · rw [Nat.min_eq_left h, Nat.mul_div_cancel wanted hstep, Nat.min_eq_left ((Nat.le_div_iff_mul_le hstep).mpr h)]
  · rw [Nat.min_eq_right h, Nat.min_eq_right (Nat.div_le_of_le_mul (by rwa [Nat.mul_comm]))]

theorem copyBlock_eq {blockPoints step stride points : ℕ} (hstep : 0 < step) (hstride : 0 < stride) (source : Bytes)
    (progress : Progress) :
    copyBlock blockPoints step stride points source progress =
      let wanted := min blockPoints (points - progress.globalIndex)
      let stop := progress.globalIndex + min wanted (source.length / step)
      let indices := multiples stride progress.globalIndex stop
      if min wanted (source.length / step) = 0 then none
      else some (source.drop (wanted * step),
        { globalIndex := stop
          written := progress.written + indices.length
          target := progress.target ++ indices.flatMap fun index => slice step source (index - progress.globalIndex) }) := by
  unfold copyBlock
  dsimp only
  rw [records_eq hstep]
  split
  · rfl
  · have hindices := map_range_first hstride progress.globalIndex
      (min (min blockPoints (points - progress.globalIndex)) (source.length / step))
    rw [← hindices, List.length_map, List.flatMap_map]
    congr 4
    apply List.flatMap_congr
    intro index hindex
    have hmem : progress.globalIndex + index ∈ multiples stride progress.globalIndex (progress.globalIndex +
        min (min blockPoints (points - progress.globalIndex)) (source.length / step)) := by
      rw [← hindices]
      exact List.mem_map_of_mem hindex
    have hlt := (mem_multiples.mp hmem).2.1
    rw [slice_take (by omega), Nat.add_sub_cancel_left]

/-- **The loop samples the records it finds**, up to the declared number, whatever the blocks. -/
theorem copyBlocks_eq {blockPoints step stride points : ℕ} (hblock : 0 < blockPoints) (hstep : 0 < step)
    (hstride : 0 < stride) (fuel : ℕ) (source : Bytes) (progress : Progress) (hindex : progress.globalIndex ≤ points)
    (hfuel : points ≤ fuel + progress.globalIndex) :
    copyBlocks blockPoints step stride points fuel source progress =
      let stop := min points (progress.globalIndex + source.length / step)
      let indices := multiples stride progress.globalIndex stop
      { globalIndex := stop
        written := progress.written + indices.length
        target := progress.target ++ indices.flatMap fun index => slice step source (index - progress.globalIndex) } := by
  induction fuel generalizing source progress with
  | zero =>
    have hdone (available : ℕ) : min points (progress.globalIndex + available) = progress.globalIndex := by omega
    simp [copyBlocks, hdone]
  | succ fuel ih =>
    rw [copyBlocks]
    split
    · rename_i hlt
      rw [copyBlock_eq hstep hstride]
      dsimp only
      have hwanted : 0 < min blockPoints (points - progress.globalIndex) := by omega
      have hrest : (source.drop (min blockPoints (points - progress.globalIndex) * step)).length / step =
          source.length / step - min blockPoints (points - progress.globalIndex) := by
        rw [List.length_drop, Nat.mul_comm _ step, Nat.sub_mul_div]
      have hsplit : min blockPoints (points - progress.globalIndex) ≤ points - progress.globalIndex := by omega
      generalize min blockPoints (points - progress.globalIndex) = wanted at hwanted hrest hsplit ⊢
      have hslices : ∀ index ∈ multiples stride (progress.globalIndex + min wanted (source.length / step))
          (min points (progress.globalIndex + source.length / step)),
          slice step (source.drop (wanted * step)) (index - (progress.globalIndex + min wanted (source.length / step))) =
            slice step source (index - progress.globalIndex) := by
        intro index hmem
        obtain ⟨hlow, hhigh, -⟩ := mem_multiples.mp hmem
        generalize source.length / step = available at hlow hhigh ⊢
        have hmin : min wanted available = wanted := by omega
        rw [hmin] at hlow ⊢
        rw [← slice_drop (show wanted ≤ index - progress.globalIndex by omega), Nat.sub_sub]
      generalize source.length / step = available at hrest hslices ⊢
      by_cases hzero : min wanted available = 0
      · have hempty : available = 0 := by omega
        subst hempty
        rw [if_pos hzero]
        simp [Nat.min_eq_right hindex]
      · rw [if_neg hzero]
        dsimp only
        rw [ih _ _ (by dsimp only; omega) (by dsimp only; omega)]
        dsimp only
        rw [hrest]
        have hstop : min points (progress.globalIndex + min wanted available + (available - wanted)) =
            min points (progress.globalIndex + available) := by omega
        have happend : multiples stride progress.globalIndex (progress.globalIndex + min wanted available) ++
            multiples stride (progress.globalIndex + min wanted available)
              (min points (progress.globalIndex + available)) =
              multiples stride progress.globalIndex (min points (progress.globalIndex + available)) :=
          multiples_append (by omega) (by omega)
        rw [hstop, List.flatMap_congr hslices, ← happend, List.length_append, List.flatMap_append, Nat.add_assoc,
          List.append_assoc]
    · have hdone (available : ℕ) : min points (progress.globalIndex + available) = progress.globalIndex := by omega
      simp [hdone]

/-! ## The rewritten header -/

/-- The digits that Python writes for a count. -/
def digits (n : ℕ) : List Char := (toString (n : ℤ)).toList

theorem digits_eq (n : ℕ) : digits n = Nat.toDigits 10 n := Nat.toList_repr

theorem isDigit_of_mem_digits {n : ℕ} {c : Char} (hc : c ∈ digits n) : c.isDigit = true := by
  rw [digits_eq] at hc
  exact Nat.isDigit_of_mem_toDigits (by decide) (by decide) hc

theorem digits_ne_nil (n : ℕ) : digits n ≠ [] := by
  rw [digits_eq]
  exact Nat.toDigits_ne_nil

theorem not_isSpace_of_isDigit {c : Char} (hc : c.isDigit = true) : isSpace c = false := by
  rw [isSpace, decide_eq_false_iff_not]
  simp only [List.mem_cons, List.not_mem_nil, or_false]
  rintro (rfl | rfl | rfl | rfl | rfl | rfl | rfl | rfl | rfl | rfl) <;> exact absurd hc (by decide)

theorem strip_digits (n : ℕ) : (digits n).strip isSpace = digits n := by
  apply List.strip_eq_self
  · intro c hc
    exact not_isSpace_of_isDigit (isDigit_of_mem_digits (List.mem_of_mem_head? hc))
  · intro hne
    exact not_isSpace_of_isDigit (isDigit_of_mem_digits (List.getLast_mem hne))

theorem decimal_digits (n : ℕ) : decimal (digits n) = some n := by
  have hsplit : (digits n).splitOn '_' = [digits n] := by
    apply List.splitOn_eq_singleton
    rw [digits_eq]
    exact Nat.underscore_not_in_toDigits
  have hall : (digits n).all Char.isDigit = true := List.all_eq_true.mpr fun c hc => isDigit_of_mem_digits hc
  have hvalue : Nat.ofDigitChars 10 (digits n) 0 = n := by
    rw [digits_eq]
    exact Nat.ofDigitChars_toDigits (by decide) (by decide)
  simp [decimal, hsplit, hall, hvalue, digits_ne_nil n]

theorem toInt_digits (n : ℕ) : toInt (digits n) = some (n : ℤ) := by
  have hhead : ∀ c ∈ (digits n).head?, c.isDigit = true := fun c hc => isDigit_of_mem_digits (List.mem_of_mem_head? hc)
  rw [toInt, strip_digits]
  split
  · rename_i heq
    exact absurd (hhead '-' (by rw [heq]; rfl)) (by decide)
  · rename_i heq
    exact absurd (hhead '+' (by rw [heq]; rfl)) (by decide)
  · rw [decimal_digits, Option.map_some]

theorem plain_of_all {word : List Char} (h : (word.all fun c => !isSpace c && decide (c.toNat < 128)) = true) :
    ∀ c ∈ word, isSpace c = false ∧ c.toNat < 128 := by
  intro c hc
  have hplain := List.all_eq_true.mp h c hc
  simpa using hplain

theorem entry_written (word : List Char) {value : List Char} (hword : ∀ c ∈ word, isSpace c = false ∧ c.toNat < 128)
    (hhead : word.headD '#' ≠ '#') (hvalue : ∀ c ∈ value, isSpace c = false ∧ c.toNat < 128)
    (hne : value ≠ []) : entry (word ++ ' ' :: value ++ ['\n']) = some (word.map Char.toUpper, value) := by
  obtain ⟨c, rest, rfl⟩ := List.exists_cons_of_ne_nil (show word ≠ [] by rintro rfl; exact hhead rfl)
  have hc : c ≠ '#' := hhead
  have hascii : ((c :: rest) ++ ' ' :: value ++ ['\n']).filter (fun c => decide (c.toNat < 128)) =
      (c :: rest) ++ ' ' :: value ++ ['\n'] := by
    rw [List.filter_eq_self]
    intro a ha
    rw [decide_eq_true_eq]
    simp only [List.mem_append, List.mem_cons, List.not_mem_nil, or_false] at ha
    obtain (ha | rfl | ha) | rfl := ha
    · exact (hword a (List.mem_cons.mpr ha)).2
    · decide
    · exact (hvalue a ha).2
    · decide
  have hlast : ((c :: rest) ++ ' ' :: value).rdropWhile isSpace = (c :: rest) ++ ' ' :: value := by
    rw [List.rdropWhile_eq_self_iff]
    intro hne'
    have hsplit : (c :: rest) ++ ' ' :: value = ((c :: rest) ++ [' ']) ++ value := by simp
    rw [List.getLast_congr hne' (List.append_ne_nil_of_right_ne_nil _ hne) hsplit,
      List.getLast_append_of_right_ne_nil _ _ hne, (hvalue _ (List.getLast_mem hne)).1]
    exact Bool.false_ne_true
  have hdecode : decode ((c :: rest) ++ ' ' :: value ++ ['\n']) = (c :: rest) ++ ' ' :: value := by
    rw [decode, hascii, List.strip]
    have hfront : ((c :: rest) ++ ' ' :: value ++ ['\n']).dropWhile isSpace = (c :: rest) ++ ' ' :: value ++ ['\n'] := by
      rw [List.cons_append, List.cons_append, List.dropWhile_cons_of_neg (by simp [(hword c List.mem_cons_self).1])]
    rw [hfront, List.rdropWhile_concat_pos _ _ _ (by decide), hlast]
  have hword' : ∀ a ∈ c :: rest, (a != ' ') = true := by
    intro a ha
    rw [bne_iff_ne]
    rintro rfl
    exact absurd (hword ' ' ha).1 (by decide)
  have hstrip : value.strip isSpace = value :=
    List.strip_eq_self isSpace (fun a ha => (hvalue a (List.mem_of_mem_head? ha)).1)
      fun hne => (hvalue _ (List.getLast_mem hne)).1
  rw [entry, hdecode, if_neg (by simp [hc]), keyOf, valueOf, List.takeWhile_append_of_pos hword',
    List.dropWhile_append_of_pos hword']
  simp [hstrip]

theorem plain_digits {n : ℕ} {c : Char} (hc : c ∈ digits n) : isSpace c = false ∧ c.toNat < 128 := by
  have hdigit := isDigit_of_mem_digits hc
  refine ⟨not_isSpace_of_isDigit hdigit, ?_⟩
  have hhigh : c.val ≤ 57 := by
    simp only [Char.isDigit, Bool.and_eq_true, decide_eq_true_eq] at hdigit
    exact hdigit.2
  have hnat : c.toNat ≤ 57 := hhigh
  omega

/-- The value that a rewritten header has for a key. -/
def rewrittenValue (n : ℕ) (e : List Char × List Char) : List Char × List Char :=
  if e.1 = "WIDTH".toList then (e.1, digits n)
  else if e.1 = "HEIGHT".toList then (e.1, ['1'])
  else if e.1 = "POINTS".toList then (e.1, digits n)
  else e

@[simp] theorem rewrittenValue_fst (n : ℕ) (e : List Char × List Char) : (rewrittenValue n e).1 = e.1 := by
  unfold rewrittenValue
  split_ifs <;> rfl

theorem head?_keyOf {text : List Char} (h : text.head? = some '#') : (keyOf text).head? = some '#' := by
  cases text with
  | nil => exact nomatch h
  | cons c rest =>
    rw [List.head?_cons, Option.some.injEq] at h
    subst h
    rfl

theorem rewriteLine_of_ne {n : ℤ} {raw : Bytes} (hwidth : keyOf (decode raw) ≠ "WIDTH".toList)
    (hheight : keyOf (decode raw) ≠ "HEIGHT".toList) (hpoints : keyOf (decode raw) ≠ "POINTS".toList) :
    rewriteLine n raw = raw := by
  unfold rewriteLine
  dsimp only
  by_cases htext : decode raw = []
  · rw [if_pos htext, if_neg (by decide), if_neg (by decide), if_neg (by decide)]
  · rw [if_neg htext, if_neg hwidth, if_neg hheight, if_neg hpoints]

theorem entry_rewriteLine (n : ℕ) (raw : Bytes) :
    entry (rewriteLine n raw) = (entry raw).map (rewrittenValue n) := by
  by_cases hcomment : decode raw = [] ∨ (decode raw).head? = some '#'
  · have hnone : entry raw = none := if_pos hcomment
    have hkey (word : String) (hword : word.toList.head? ≠ some '#') (hne : word.toList ≠ []) :
        keyOf (decode raw) ≠ word.toList := by
      intro heq
      rcases hcomment with htext | htext
      · rw [htext] at heq
        exact hne heq.symm
      · exact hword (heq ▸ head?_keyOf htext)
    rw [rewriteLine_of_ne (hkey "WIDTH" (by decide) (by decide)) (hkey "HEIGHT" (by decide) (by decide))
      (hkey "POINTS" (by decide) (by decide)), hnone, Option.map_none]
  · have hsome : entry raw = some (keyOf (decode raw), valueOf (decode raw)) := if_neg hcomment
    rw [not_or] at hcomment
    rw [hsome, Option.map_some]
    by_cases hwidth : keyOf (decode raw) = "WIDTH".toList
    · have hline : rewriteLine n raw = "WIDTH".toList ++ ' ' :: digits n ++ ['\n'] := by
        rw [rewriteLine, if_neg hcomment.1, if_pos hwidth]
        rfl
      rw [hline, entry_written "WIDTH".toList (plain_of_all (by decide)) (by decide) (fun c hc => plain_digits hc)
        (digits_ne_nil n), rewrittenValue, if_pos hwidth, hwidth]
      rfl
    · by_cases hheight : keyOf (decode raw) = "HEIGHT".toList
      · have hline : rewriteLine n raw = "HEIGHT".toList ++ ' ' :: ['1'] ++ ['\n'] := by
          rw [rewriteLine, if_neg hcomment.1, if_neg hwidth, if_pos hheight]
          rfl
        rw [hline, entry_written "HEIGHT".toList (plain_of_all (by decide)) (by decide) (plain_of_all (by decide))
          (by decide), rewrittenValue, if_neg hwidth, if_pos hheight, hheight]
        rfl
      · by_cases hpoints : keyOf (decode raw) = "POINTS".toList
        · have hline : rewriteLine n raw = "POINTS".toList ++ ' ' :: digits n ++ ['\n'] := by
            rw [rewriteLine, if_neg hcomment.1, if_neg hwidth, if_neg hheight, if_pos hpoints]
            rfl
          rw [hline, entry_written "POINTS".toList (plain_of_all (by decide)) (by decide)
            (fun c hc => plain_digits hc) (digits_ne_nil n), rewrittenValue, if_neg hwidth, if_neg hheight, if_pos hpoints,
            hpoints]
          rfl
        · rw [rewriteLine_of_ne hwidth hheight hpoints, hsome, rewrittenValue, if_neg hwidth, if_neg hheight,
            if_neg hpoints]

theorem get_rewriteHeader (key : String) (lines : List Bytes) (n : ℕ) :
    get key (rewriteHeader lines n) = (get key lines).map fun value => (rewrittenValue n (key.toList, value)).2 := by
  have hentries : (rewriteHeader lines n).filterMap entry = (lines.filterMap entry).map (rewrittenValue n) := by
    rw [rewriteHeader, List.filterMap_map, List.map_filterMap]
    apply List.filterMap_congr
    intro raw _
    exact entry_rewriteLine n raw
  have hfilter : ((lines.filterMap entry).map (rewrittenValue n)).filter (fun e => e.1 == key.toList) =
      ((lines.filterMap entry).filter fun e => e.1 == key.toList).map (rewrittenValue n) := by
    rw [List.filter_map]
    congr 1
    apply List.filter_congr
    intro e _
    rw [Function.comp_apply, rewrittenValue_fst]
  rw [get, get, hentries, hfilter, List.getLast?_map, Option.map_map, Option.map_map]
  cases hlast : ((lines.filterMap entry).filter fun e => e.1 == key.toList).getLast? with
  | none => rfl
  | some e =>
    have hkey : e.1 = key.toList := by
      have hmem := List.mem_of_getLast? hlast
      rw [List.mem_filter, beq_iff_eq] at hmem
      exact hmem.2
    simp only [Option.map_some, Function.comp_apply, ← hkey]

/-- **The rewritten header declares the number it was rewritten to**, where the old one declared a positive one. -/
theorem declaredPoints_rewriteHeader {lines : List Bytes} {points : ℤ} (h : declaredPoints lines = some points)
    (hpos : 0 < points) (n : ℕ) : declaredPoints (rewriteHeader lines n) = some (n : ℤ) := by
  have hdigits : (digits n).isEmpty = false := by
    rw [List.isEmpty_eq_false_iff]
    exact digits_ne_nil n
  rw [declaredPoints] at h ⊢
  rw [get_rewriteHeader, get_rewriteHeader]
  cases hpoints : get "POINTS" lines with
  | some text =>
    have hvalue : (rewrittenValue n ("POINTS".toList, text)).2 = digits n := rfl
    simp only [Option.map_some, hvalue]
    simp [hdigits, toInt_digits]
  | none =>
    cases hwidth : get "WIDTH" lines with
    | some text =>
      have hvalue : (rewrittenValue n ("WIDTH".toList, text)).2 = digits n := rfl
      simp only [Option.map_some, hvalue]
      simp [hdigits, toInt_digits]
    | none =>
      rw [hpoints, hwidth] at h
      have hzero : (0 : ℤ) = points := Option.some.inj h
      omega

/-! ## A cloud -/

inductive Payload
  | binary (bytes : Bytes)
  | ascii (lines : List Bytes)

structure Cloud where
  header : List Bytes
  payload : Payload

/-- The sampling of `scene_cloud_path`, by the kind of the data. -/
def sample (blockBytes : ℕ) (cloud : Cloud) (maxPoints : ℕ) : Except SceneError Bytes :=
  match cloud.payload with
  | .binary bytes => copyBinarySampled blockBytes bytes cloud.header maxPoints
  | .ascii lines => copyAsciiSampled lines cloud.header maxPoints

/-- How many records of the payload are looked at. -/
def Cloud.recordCount (cloud : Cloud) (n : ℕ) : ℕ :=
  match cloud.payload with
  | .binary _ => n
  | .ascii lines => lines.length

def Cloud.record (cloud : Cloud) (index : ℕ) : Bytes :=
  match cloud.payload with
  | .binary bytes => slice ((pointStep cloud.header).toOption.getD 0) bytes index
  | .ascii lines => lines.getD index []

/-- The payload holds exactly `n` records of an accepted size. -/
def Cloud.Holds (cloud : Cloud) (n : ℕ) : Prop :=
  match cloud.payload with
  | .binary bytes => ∃ step, pointStep cloud.header = .ok step ∧ bytes.length = n * step
  | .ascii lines => lines.length = n

/-- The stride for a declared number and a cap, in both formats. -/
def strideOf (n maxPoints : ℕ) : ℕ := (stride n maxPoints).toOption.getD 1

/-- A header that declares how many records follow it, and the records at the multiples of the stride. -/
def Decimation (cloud : Cloud) (n stride : ℕ) (target header : Bytes) (records : List Bytes) : Prop :=
  target = header ++ records.flatten ∧
  (∃ lines, header = lines.flatten ∧ declaredPoints lines = some (records.length : ℤ)) ∧
  records = (multiples stride 0 (cloud.recordCount n)).map cloud.record

theorem stride_pos {points : ℤ} {maxPoints k : ℕ} (h : stride points maxPoints = .ok k) : 0 < k := by
  obtain ⟨quotient, -, hk⟩ := Excepts.bind_eq_ok h
  rw [← Except.ok.inj hk]
  omega

theorem pointStep_pos {lines : List Bytes} {step : ℕ} (h : pointStep lines = .ok step) : 0 < step := by
  unfold pointStep at h
  split at h
  · exact nomatch h
  · dsimp only at h
    split_ifs at h with hfields hstep
    rw [← Except.ok.inj h]
    omega

theorem copyBinarySampled_eq {lines : List Bytes} {n step k : ℕ} {maxPoints : ℕ} {selected : ℤ}
    (hn : declaredPoints lines = some (n : ℤ)) (hpos : 0 < n) (hstep : pointStep lines = .ok step)
    (hstride : stride n maxPoints = .ok k) (hselected : ceil n k = .ok selected) (blockBytes : ℕ) (source : Bytes) :
    copyBinarySampled blockBytes source lines maxPoints =
      if min n (source.length / step) ≠ n ∨ ((multiples k 0 n).length : ℤ) ≠ selected then
        .error (.artifact "PCD binary payload is truncated")
      else
        .ok ((rewriteHeader lines selected).flatten ++ ((multiples k 0 n).map (slice step source)).flatten) := by
  have hblock : 0 < max 1 (blockBytes / step) := by omega
  have hloop := @copyBlocks_eq _ _ _ n hblock (pointStep_pos hstep) (stride_pos hstride) n source ⟨0, 0, []⟩
    (Nat.zero_le n) (by simp)
  dsimp only at hloop
  simp only [Nat.zero_add, List.nil_append, Nat.sub_zero] at hloop
  rw [copyBinarySampled, hn]
  dsimp only
  rw [if_neg (by omega), hstep, Excepts.ok_bind, hstride, Excepts.ok_bind, hselected, Excepts.ok_bind,
    Int.toNat_natCast, hloop]
  dsimp only
  by_cases hfull : min n (source.length / step) = n
  · rw [hfull, List.flatMap_def]
    rfl
  · rw [if_pos (.inl hfull), if_pos (.inl hfull)]

theorem zipIdx_eq_map_range (lines : List Bytes) :
    lines.zipIdx = (List.range lines.length).map fun index => (lines.getD index [], index) := by
  apply List.ext_getElem
  · simp
  · intro index hindex hindex'
    have hlt : index < lines.length := by simpa using hindex
    simp [List.getElem?_eq_getElem hlt]

theorem kept_lines (k : ℕ) (lines : List Bytes) :
    (lines.zipIdx.filter fun e => e.2 % k == 0).map Prod.fst =
      (multiples k 0 lines.length).map fun index => lines.getD index [] := by
  rw [zipIdx_eq_map_range, List.filter_map, List.map_map, multiples, Nat.sub_zero, ← List.range_eq_range']
  rfl

theorem copyAsciiSampled_eq {lines : List Bytes} {n k : ℕ} {maxPoints : ℕ} {selected : ℤ}
    (hn : declaredPoints lines = some (n : ℤ)) (hstride : stride n maxPoints = .ok k)
    (hselected : ceil n k = .ok selected) (source : List Bytes) :
    copyAsciiSampled source lines maxPoints =
      if ((multiples k 0 source.length).length : ℤ) ≠ selected then
        .error (.artifact "PCD ASCII payload is truncated")
      else
        .ok ((rewriteHeader lines selected).flatten ++
          ((multiples k 0 source.length).map fun index => source.getD index []).flatten) := by
  have hkept := kept_lines k source
  have hlength : (source.zipIdx.filter fun e => e.2 % k == 0).length = (multiples k 0 source.length).length := by
    rw [← List.length_map Prod.fst, hkept, List.length_map]
  rw [copyAsciiSampled, hn]
  dsimp only
  rw [hstride, Excepts.ok_bind, hselected, Excepts.ok_bind, ← hkept, ← hlength]
  rfl

variable {cloud : Cloud} {n maxPoints : ℕ}

theorem quotients_of_sample {blockBytes : ℕ} {target : Bytes} (hn : declaredPoints cloud.header = some (n : ℤ))
    (hpos : 0 < n) (hsample : sample blockBytes cloud maxPoints = .ok target) :
    ∃ k selected, stride n maxPoints = .ok k ∧ ceil n k = .ok selected := by
  unfold sample at hsample
  split at hsample
  · rw [copyBinarySampled, hn] at hsample
    dsimp only at hsample
    rw [if_neg (by omega)] at hsample
    obtain ⟨step, -, hsample⟩ := Excepts.bind_eq_ok hsample
    obtain ⟨k, hk, hsample⟩ := Excepts.bind_eq_ok hsample
    obtain ⟨selected, hselected, -⟩ := Excepts.bind_eq_ok hsample
    exact ⟨k, selected, hk, hselected⟩
  · rw [copyAsciiSampled, hn] at hsample
    obtain ⟨k, hk, hsample⟩ := Excepts.bind_eq_ok hsample
    obtain ⟨selected, hselected, -⟩ := Excepts.bind_eq_ok hsample
    exact ⟨k, selected, hk, hselected⟩

theorem strideOf_eq {k : ℕ} (hstride : stride n maxPoints = .ok k) : strideOf n maxPoints = k := by
  rw [strideOf, hstride]
  rfl

theorem decimation_of_sample {blockBytes : ℕ} {target : Bytes} (hn : declaredPoints cloud.header = some (n : ℤ))
    (hpos : 0 < n) (hsample : sample blockBytes cloud maxPoints = .ok target) :
    ∃ header records, Decimation cloud n (strideOf n maxPoints) target header records ∧
      ceil n (strideOf n maxPoints) = .ok (records.length : ℤ) := by
  obtain ⟨k, selected, hstride, hselected⟩ := quotients_of_sample hn hpos hsample
  rw [strideOf_eq hstride]
  have hheader : ∀ records : List Bytes, (records.length : ℤ) = selected →
      ∃ lines, (rewriteHeader cloud.header selected).flatten = lines.flatten ∧
        declaredPoints lines = some (records.length : ℤ) := by
    intro records hlength
    refine ⟨rewriteHeader cloud.header records.length, by rw [hlength], ?_⟩
    exact declaredPoints_rewriteHeader hn (by omega) records.length
  unfold sample at hsample
  cases hpayload : cloud.payload with
  | binary bytes =>
    rw [hpayload] at hsample
    dsimp only at hsample
    have hstep : ∃ step, pointStep cloud.header = .ok step := by
      have hpeel := hsample
      rw [copyBinarySampled, hn] at hpeel
      dsimp only at hpeel
      rw [if_neg (by omega)] at hpeel
      obtain ⟨step, hstep, -⟩ := Excepts.bind_eq_ok hpeel
      exact ⟨step, hstep⟩
    obtain ⟨step, hstep⟩ := hstep
    rw [copyBinarySampled_eq hn hpos hstep hstride hselected] at hsample
    split_ifs at hsample with hcheck
    rw [not_or, not_not, not_not] at hcheck
    have hlength : (((multiples k 0 n).map (slice step bytes)).length : ℤ) = selected := by
      rw [List.length_map]
      exact hcheck.2
    have hrecord : cloud.record = slice step bytes := by
      funext index
      rw [Cloud.record, hpayload, hstep]
      rfl
    refine ⟨_, _, ⟨(Except.ok.inj hsample).symm, hheader _ hlength, ?_⟩, by rw [hlength, hselected]⟩
    rw [Cloud.recordCount, hpayload, hrecord]
  | ascii lines =>
    rw [hpayload] at hsample
    dsimp only at hsample
    rw [copyAsciiSampled_eq hn hstride hselected] at hsample
    split_ifs at hsample with hcheck
    rw [not_not] at hcheck
    have hlength : (((multiples k 0 lines.length).map fun index => lines.getD index []).length : ℤ) = selected := by
      rw [List.length_map]
      exact hcheck
    have hrecord : cloud.record = fun index => lines.getD index [] := by
      funext index
      rw [Cloud.record, hpayload]
    refine ⟨_, _, ⟨(Except.ok.inj hsample).symm, hheader _ hlength, ?_⟩, by rw [hlength, hselected]⟩
    rw [Cloud.recordCount, hpayload, hrecord]

/-- **The blocks do not matter.** -/
theorem sample_blockBytes (hn : declaredPoints cloud.header = some (n : ℤ)) (hpos : 0 < n) (blockBytes other : ℕ) :
    sample blockBytes cloud maxPoints = sample other cloud maxPoints := by
  unfold sample
  cases hpayload : cloud.payload with
  | ascii lines => rfl
  | binary bytes =>
    dsimp only
    cases hstep : pointStep cloud.header with
    | error e => simp [copyBinarySampled, hn, hstep, bind, Except.bind]
    | ok step =>
      cases hstride : stride n maxPoints with
      | error e => simp [copyBinarySampled, hn, hstep, hstride, bind, Except.bind]
      | ok k =>
        cases hselected : ceil n k with
        | error e => simp [copyBinarySampled, hn, hstep, hstride, hselected, bind, Except.bind]
        | ok selected =>
          rw [copyBinarySampled_eq hn hpos hstep hstride hselected, copyBinarySampled_eq hn hpos hstep hstride hselected]

/-! ## Below `2 ^ 53` points -/

theorem ceil_eq {points quotient : ℤ} {count : ℕ} (h : ceilQuotient points count = some quotient) :
    ceil points count = .ok quotient := by
  rw [ceil, h, Option.elim_some]

theorem stride_eq {points quotient : ℤ} (h : ceilQuotient points maxPoints = some quotient) :
    stride points maxPoints = .ok (max 1 quotient).toNat := by
  simp only [stride, ceil_eq h]
  rfl

theorem quotients_eq (hpos : 0 < n) (hcap : 0 < maxPoints) (hlt : n < 2 ^ 53) :
    ∃ k, stride n maxPoints = .ok k ∧ ceil n k = .ok ((multiples k 0 n).length : ℤ) ∧
      (multiples k 0 n).length ≤ maxPoints := by
  obtain ⟨quotient, hquotient, hmax, -⟩ := ceilQuotient_eq hcap hpos hlt
  have hstride := stride_eq hquotient
  rw [hmax, Int.toNat_natCast] at hstride
  have habove := le_ceil_mul n hcap
  have hbelow := ceil_mul_lt n hcap
  generalize (n + maxPoints - 1) / maxPoints = k at hstride habove hbelow
  have hk := stride_pos hstride
  have hle : k ≤ n := by
    by_contra hmore
    have := Nat.mul_le_mul_right maxPoints (show n + 1 ≤ k by omega)
    have := Nat.le_mul_of_pos_right n hcap
    rw [Nat.add_mul] at *
    omega
  obtain ⟨selected, hselected, -, hexact⟩ := ceilQuotient_eq hk hpos hlt
  refine ⟨k, hstride, ?_, ?_⟩
  · rw [ceil_eq hselected, hexact hle, length_multiples_zero hk]
  · rw [length_multiples_zero hk]
    apply Nat.le_of_lt_succ
    rw [Nat.div_lt_iff_lt_mul hk, Nat.succ_mul, Nat.mul_comm]
    omega

theorem pointStep_error {lines : List Bytes} {e : SceneError} (hlayout : (pointLayout lines).isSome)
    (h : pointStep lines = .error e) : ∃ message, e = .artifact message := by
  obtain ⟨⟨sizes, counts⟩, hlayout⟩ := Option.isSome_iff_exists.mp hlayout
  rw [pointStep, hlayout] at h
  dsimp only at h
  split_ifs at h
  · exact ⟨_, (Except.error.inj h).symm⟩
  · exact ⟨_, (Except.error.inj h).symm⟩

theorem exists_sample (hn : declaredPoints cloud.header = some (n : ℤ)) (hpos : 0 < n) (hcap : 0 < maxPoints)
    (hlt : n < 2 ^ 53) (hholds : cloud.Holds n) (blockBytes : ℕ) :
    ∃ target, sample blockBytes cloud maxPoints = .ok target := by
  obtain ⟨k, hstride, hselected, -⟩ := quotients_eq hpos hcap hlt
  unfold sample
  unfold Cloud.Holds at hholds
  cases hpayload : cloud.payload with
  | binary bytes =>
    rw [hpayload] at hholds
    obtain ⟨step, hstep, hlength⟩ := hholds
    have hfull : min n (bytes.length / step) = n := by
      rw [hlength, Nat.mul_div_cancel _ (pointStep_pos hstep), Nat.min_self]
    dsimp only
    rw [copyBinarySampled_eq hn hpos hstep hstride hselected, if_neg (by simp [hfull])]
    exact ⟨_, rfl⟩
  | ascii lines =>
    rw [hpayload] at hholds
    dsimp only at hholds ⊢
    rw [copyAsciiSampled_eq hn hstride hselected, hholds, if_neg (by simp)]
    exact ⟨_, rfl⟩

theorem artifact_of_sample (hn : declaredPoints cloud.header = some (n : ℤ)) (hpos : 0 < n) (hcap : 0 < maxPoints)
    (hlt : n < 2 ^ 53) (hlayout : (pointLayout cloud.header).isSome) {blockBytes : ℕ} {e : SceneError}
    (hsample : sample blockBytes cloud maxPoints = .error e) : ∃ message, e = .artifact message := by
  obtain ⟨k, hstride, hselected, -⟩ := quotients_eq hpos hcap hlt
  unfold sample at hsample
  cases hpayload : cloud.payload with
  | binary bytes =>
    rw [hpayload] at hsample
    dsimp only at hsample
    cases hstep : pointStep cloud.header with
    | error error =>
      have hraised : copyBinarySampled blockBytes bytes cloud.header maxPoints = .error error := by
        rw [copyBinarySampled, hn]
        dsimp only
        rw [if_neg (by omega), hstep]
        rfl
      rw [← Except.error.inj (hraised.symm.trans hsample)]
      exact pointStep_error hlayout hstep
    | ok step =>
      rw [copyBinarySampled_eq hn hpos hstep hstride hselected] at hsample
      split_ifs at hsample
      exact ⟨_, (Except.error.inj hsample).symm⟩
  | ascii lines =>
    rw [hpayload] at hsample
    dsimp only at hsample
    rw [copyAsciiSampled_eq hn hstride hselected] at hsample
    split_ifs at hsample
    exact ⟨_, (Except.error.inj hsample).symm⟩

/-- **Decimation is exact**: the header counts what is written, what is written are the records at the multiples of one
stride, and below `2 ^ 53` points the cap is kept and a full payload of an accepted size is sampled. -/
theorem sample_decimates (hn : declaredPoints cloud.header = some (n : ℤ)) (hpos : 0 < n) (hcap : 0 < maxPoints) :
    (∀ blockBytes target, sample blockBytes cloud maxPoints = .ok target →
      ∃ header records, Decimation cloud n (strideOf n maxPoints) target header records ∧
        (n < 2 ^ 53 → records.length ≤ maxPoints)) ∧
    (∀ blockBytes other, sample blockBytes cloud maxPoints = sample other cloud maxPoints) ∧
    (n < 2 ^ 53 → (pointLayout cloud.header).isSome → ∀ blockBytes e,
      sample blockBytes cloud maxPoints = .error e → ∃ message, e = .artifact message) ∧
    (n < 2 ^ 53 → cloud.Holds n → ∀ blockBytes, ∃ target, sample blockBytes cloud maxPoints = .ok target) := by
  refine ⟨?_, sample_blockBytes hn hpos, ?_, ?_⟩
  · intro blockBytes target hsample
    obtain ⟨header, records, hdecimation, hcount⟩ := decimation_of_sample hn hpos hsample
    refine ⟨header, records, hdecimation, ?_⟩
    intro hlt
    obtain ⟨k, hstride, hselected, hle⟩ := quotients_eq hpos hcap hlt
    rw [strideOf_eq hstride, hselected] at hcount
    have hlength : ((multiples k 0 n).length : ℤ) = records.length := Except.ok.inj hcount
    omega
  · exact fun hlt hlayout _ _ => artifact_of_sample hn hpos hcap hlt hlayout
  · exact fun hlt hholds => exists_sample hn hpos hcap hlt hholds

def pairs : Cloud where
  header := ["SIZE 1 1\n".toList, "POINTS 3\n".toList, "DATA binary\n".toList]
  payload := .binary "aabbcc".toList

theorem sample_pairs_decimates :
    ∃ header records, Decimation pairs 3 (strideOf 3 2) "SIZE 1 1\nPOINTS 2\nDATA binary\naacc".toList header records ∧
      ((3 : ℕ) < 2 ^ 53 → records.length ≤ 2) :=
  (sample_decimates (n := 3) (by decide +kernel) (by decide) (by decide)).1 2 _ (by decide +kernel)

/-- A cloud of one point of 4097 bytes. -/
def wide : Cloud where
  header := ["SIZE 4097\n".toList, "POINTS 1\n".toList, "DATA binary\n".toList]
  payload := .binary (List.replicate 4097 'x')

/-- A cloud of one more point than a `double` counts, each of one byte. -/
def countless : Cloud where
  header := ["SIZE 1\n".toList, "POINTS 9007199254740993\n".toList, "DATA binary\n".toList]
  payload := .binary (List.replicate 9007199254740993 'x')

theorem stride_countless : stride 9007199254740993 1 = .ok 9007199254740992 :=
  stride_eq (show ceilQuotient 9007199254740993 1 = some 9007199254740992 by decide +kernel)

theorem ceil_countless : ceil 9007199254740993 9007199254740992 = .ok 1 :=
  ceil_eq (show ceilQuotient 9007199254740993 9007199254740992 = some 1 by decide +kernel)

theorem pointStep_countless : pointStep countless.header = .ok 1 := by decide

theorem declaredPoints_countless : declaredPoints countless.header = some ((9007199254740993 : ℕ) : ℤ) := by
  decide

/-- **A full payload can be refused**: where a point has more than 4096 bytes, and where the quotient of the doubles is
too small. -/
theorem refused_wide_countless :
    (pointLayout wide.header = some ([4097], [1]) ∧ declaredPoints wide.header = some 1 ∧
      sample (2 * 1024 * 1024) wide 1 = .error (.artifact "PCD point step is invalid")) ∧
    (countless.Holds 9007199254740993 ∧ declaredPoints countless.header = some ((9007199254740993 : ℕ) : ℤ) ∧
      sample (2 * 1024 * 1024) countless 1 = .error (.artifact "PCD binary payload is truncated")) := by
  refine ⟨⟨by decide, by decide, ?_⟩, ⟨1, pointStep_countless, List.length_replicate⟩,
    declaredPoints_countless, ?_⟩
  · have hstep : pointStep wide.header = .error (.artifact "PCD point step is invalid") := by decide
    have hdeclared : declaredPoints wide.header = some 1 := by decide
    show copyBinarySampled _ _ wide.header 1 = _
    rw [copyBinarySampled, hdeclared]
    dsimp only
    rw [if_neg (by decide), hstep]
    rfl
  · show copyBinarySampled _ _ countless.header 1 = _
    rw [copyBinarySampled_eq declaredPoints_countless (by decide) pointStep_countless stride_countless ceil_countless,
      if_pos]
    right
    rw [length_multiples_zero (by decide)]
    decide

end MapScene

end RoamerX
