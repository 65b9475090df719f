import Mathlib.Data.List.Range
import Mathlib.Data.Prod.Lex
import Mathlib.Logic.Relation
import RoamerX.Validation.JobService

set_option autoImplicit false

/-! # Validation jobs are leased safely

`Change` says once what a call can do to a job and its attempts; the invariant of a job, `JobInv`, and
everything claimed of its life are derived from it. The calls are then shown to make no other
changes. -/

namespace RoamerX

namespace ValidationDb

variable {settings : ValidationSettings} {texts : ValidationTexts}

/-! ## What a call does to one job -/

/-- The attempts with the row of this number replaced. -/
def replaced (a : ValidationAttempt) (as : List ValidationAttempt) : List ValidationAttempt :=
  as.map (fun x => if x.number = a.number then a else x)

/-- The row of `a` is rewritten, not its identity. -/
structure SameAttempt (a a' : ValidationAttempt) : Prop where
  job : a'.job = a.job
  number : a'.number = a.number
  lease : a'.leaseToken = a.leaseToken

abbrev Work := ValidationJob × List ValidationAttempt

/-- What the call `c` does to a job and its attempts. -/
inductive Change (settings : ValidationSettings) (texts : ValidationTexts) (c : ValidationCall) :
    Work → Work → Prop
  /-- The lease has run out. -/
  | expire {j : ValidationJob} {as : List ValidationAttempt} (now : ℕ) (a : ValidationAttempt)
      (hc : c = .reclaimExpired now ∨ ∃ r, c = .claim now r)
      (hleased : j.state.isLeased = true) (ha : a ∈ as) (hnumber : a.number = j.attemptCount) :
      Change settings texts c (j, as)
        (expiredJob settings now j, replaced (expiredAttempt now a) as)
  | claim {j : ValidationJob} {as : List ValidationAttempt} (now : ℕ) (r : ValidationRunner)
      (lease : Uuid) (hc : c = .claim now r) (hqueued : j.state = .queued) :
      Change settings texts c (j, as)
        (claimedJob settings now r lease j,
          as ++ [{ job := j.id, number := j.attemptCount + 1, runner := r.id, leaseToken := lease }])
  | beat {j : ValidationJob} {as : List ValidationAttempt} (now : ℕ) (r : ValidationRunner)
      (payload : List (String × Json)) (state : JobState) (progress : ℕ) (a a' : ValidationAttempt)
      (hc : c = .heartbeat now j.id r payload)
      (hlease : validateLease texts j r (leaseOf payload) = none)
      (hword : JobState.reported? (reportedState texts j payload) = some state)
      (hprogress : reportedProgress texts j payload = some progress)
      (hle : j.progressPercent ≤ progress) (hmax : progress ≤ 100)
      (ha : a ∈ as) (hnumber : a.number = j.attemptCount) (hsame : SameAttempt a a')
      (hfinished : a'.finishedAt = a.finishedAt) :
      Change settings texts c (j, as)
        (beatJob settings texts now payload state progress j, replaced a' as)
  /-- The runner completes the job, and it ends. -/
  | conclude {j j' : ValidationJob} {as : List ValidationAttempt} (now : ℕ) (r : ValidationRunner)
      (payload : List (String × Json)) (a a' : ValidationAttempt)
      (hc : c = .complete now j.id r payload)
      (hlease : validateLease texts j r (leaseOf payload) = none)
      (hend : j'.state = .cancelled ∧ (outcomeOf texts payload = "cancelled" ∨ j.state = .cancelling) ∨
        j'.state = .infraError ∧ j.state ≠ .cancelling ∨
        j'.state = .completed ∧ j.state ≠ .cancelling)
      (hid : j'.id = j.id) (hcount : j'.attemptCount = j.attemptCount)
      (hprogress : j'.progressPercent = j.progressPercent ∨ j'.progressPercent = 100)
      (ha : a ∈ as) (hnumber : a.number = j.attemptCount) (hsame : SameAttempt a a')
      (hfinished : a'.finishedAt = some now) :
      Change settings texts c (j, as) (j', replaced a' as)
  /-- The runner reports an infrastructure error, and the job is tried again. -/
  | retry {j : ValidationJob} {as : List ValidationAttempt} (now : ℕ) (r : ValidationRunner)
      (payload : List (String × Json)) (a a' : ValidationAttempt)
      (hc : c = .complete now j.id r payload)
      (hlease : validateLease texts j r (leaseOf payload) = none)
      (hcancelling : j.state ≠ .cancelling) (hmore : j.attemptCount < settings.maxAttempts)
      (ha : a ∈ as) (hnumber : a.number = j.attemptCount) (hsame : SameAttempt a a')
      (hfinished : a'.finishedAt = some now) :
      Change settings texts c (j, as) (requeued j, replaced a' as)
  | cancel {j : ValidationJob} {as : List ValidationAttempt} (now : ℕ)
      (hc : c = .requestCancel now j.id) :
      Change settings texts c (j, as) (cancelRequested now j, as)

/-! ## The invariant of a job -/

/-- What holds of a job and its attempts between calls. -/
structure JobInv (settings : ValidationSettings) (w : Work) : Prop where
  owned : ∀ a ∈ w.2, a.job = w.1.id
  numbers : w.2.map ValidationAttempt.number = List.range' 1 w.1.attemptCount
  bounded : w.1.attemptCount ≤ settings.maxAttempts
  finished : ∀ a ∈ w.2, a.number ≠ w.1.attemptCount → a.finishedAt.isSome = true
  settled : w.1.state.isLeased = false → ∀ a ∈ w.2, a.finishedAt.isSome = true
  queued : w.1.state = .queued → w.1.runner = none ∧ w.1.leaseToken = none ∧
    w.1.leaseExpiresAt = none ∧ w.1.attemptCount < settings.maxAttempts
  leased : w.1.state.isLeased = true → ∃ a ∈ w.2, a.number = w.1.attemptCount ∧
    some a.leaseToken = w.1.leaseToken ∧ a.finishedAt = none
  progress : w.1.progressPercent ≤ 100

theorem mem_replaced {a x : ValidationAttempt} {as : List ValidationAttempt}
    (h : x ∈ replaced a as) : x = a ∨ (x ∈ as ∧ x.number ≠ a.number) := by
  obtain ⟨y, hy, rfl⟩ := List.mem_map.mp h
  by_cases hnumber : y.number = a.number
  · left
    rw [if_pos hnumber]
  · right
    rw [if_neg hnumber]
    exact ⟨hy, hnumber⟩

theorem mem_replaced_self {a x : ValidationAttempt} {as : List ValidationAttempt} (hx : x ∈ as)
    (hnumber : x.number = a.number) : a ∈ replaced a as :=
  List.mem_map.mpr ⟨x, hx, if_pos hnumber⟩

theorem replaced_numbers (a : ValidationAttempt) (as : List ValidationAttempt) :
    (replaced a as).map ValidationAttempt.number = as.map ValidationAttempt.number := by
  unfold replaced
  rw [List.map_map]
  apply List.map_congr_left
  intro x _
  by_cases hnumber : x.number = a.number
  · simp [hnumber]
  · simp [hnumber]

theorem JobInv.attempt_unique {w : Work} (hi : JobInv settings w) {a b : ValidationAttempt}
    (ha : a ∈ w.2) (hb : b ∈ w.2) (h : a.number = b.number) : a = b := by
  have hnodup : (w.2.map ValidationAttempt.number).Nodup := by
    rw [hi.numbers]
    exact List.nodup_range'
  exact List.inj_on_of_nodup_map hnodup ha hb h

theorem JobInv.owned_replaced {w : Work} (hi : JobInv settings w) {a a' : ValidationAttempt}
    (ha : a ∈ w.2) (hsame : SameAttempt a a') : ∀ x ∈ replaced a' w.2, x.job = w.1.id := by
  intro x hx
  rcases mem_replaced hx with rfl | ⟨hx, -⟩
  · rw [hsame.job]
    exact hi.owned a ha
  · exact hi.owned x hx

theorem JobInv.finished_replaced {w : Work} (hi : JobInv settings w) {a a' : ValidationAttempt}
    (hnumber : a.number = w.1.attemptCount) (hsame : SameAttempt a a') :
    ∀ x ∈ replaced a' w.2, x.number ≠ w.1.attemptCount → x.finishedAt.isSome = true := by
  intro x hx hne
  rcases mem_replaced hx with rfl | ⟨hx, -⟩
  · rw [hsame.number] at hne
    exact absurd hnumber hne
  · exact hi.finished x hx hne

theorem JobInv.settled_replaced {w : Work} (hi : JobInv settings w) {a a' : ValidationAttempt}
    (hnumber : a.number = w.1.attemptCount) (hsame : SameAttempt a a')
    (hfinished : a'.finishedAt.isSome = true) :
    ∀ x ∈ replaced a' w.2, x.finishedAt.isSome = true := by
  intro x hx
  rcases mem_replaced hx with rfl | ⟨hx, hne⟩
  · exact hfinished
  · rw [hsame.number, hnumber] at hne
    exact hi.finished x hx hne

theorem validateLease_none {j : ValidationJob} {r : ValidationRunner} {l : Json}
    (h : validateLease texts j r l = none) :
    j.runner = some r.id ∧
      j.leaseToken.elim "" texts.uuidText = (if l.truthy then texts.str l else "") ∧
      j.state.isTerminal = false := by
  unfold validateLease at h
  by_cases hmismatch : j.runner ≠ some r.id ∨
      j.leaseToken.elim "" texts.uuidText ≠ (if l.truthy then texts.str l else "")
  · rw [if_pos hmismatch] at h
    exact nomatch h
  · rw [if_neg hmismatch] at h
    rw [not_or, not_not, not_not] at hmismatch
    by_cases hterminal : j.state.isTerminal = true
    · rw [if_pos hterminal] at h
      exact nomatch h
    · exact ⟨hmismatch.1, hmismatch.2, by simpa using hterminal⟩

theorem JobInv.leased_of_lease {w : Work} (hi : JobInv settings w) {r : ValidationRunner} {l : Json}
    (h : validateLease texts w.1 r l = none) : w.1.state.isLeased = true := by
  obtain ⟨hrunner, -, hterminal⟩ := validateLease_none h
  cases hstate : w.1.state with
  | queued =>
    rw [(hi.queued hstate).1] at hrunner
    exact nomatch hrunner
  | completed | cancelled | infraError =>
    rw [hstate] at hterminal
    exact nomatch hterminal
  | staging | running | analyzing | uploading | cancelling => rfl

theorem expiredAttempt_same (now : ℕ) (a : ValidationAttempt) :
    SameAttempt a (expiredAttempt now a) := ⟨rfl, rfl, rfl⟩

theorem expiredJob_cases (settings : ValidationSettings) (now : ℕ) (j : ValidationJob) :
    (j.state = .cancelling ∧
        expiredJob settings now j = { j with state := .cancelled, finishedAt := some now }) ∨
      (j.state ≠ .cancelling ∧ j.attemptCount < settings.maxAttempts ∧
        expiredJob settings now j = requeued j) ∨
      (j.state ≠ .cancelling ∧ (expiredJob settings now j).state = .infraError ∧
        (expiredJob settings now j).id = j.id ∧
        (expiredJob settings now j).attemptCount = j.attemptCount ∧
        (expiredJob settings now j).progressPercent = j.progressPercent) := by
  unfold expiredJob
  by_cases hcancelling : j.state = .cancelling
  · left
    rw [if_pos hcancelling]
    exact ⟨hcancelling, rfl⟩
  · right
    rw [if_neg hcancelling]
    by_cases hmore : j.attemptCount < settings.maxAttempts
    · left
      rw [if_pos hmore]
      exact ⟨hcancelling, hmore, rfl⟩
    · right
      rw [if_neg hmore]
      exact ⟨hcancelling, rfl, rfl, rfl, rfl⟩

theorem JobInv.end_job {j j' : ValidationJob} {as : List ValidationAttempt}
    (hi : JobInv settings (j, as)) {a a' : ValidationAttempt} (ha : a ∈ as)
    (hnumber : a.number = j.attemptCount) (hsame : SameAttempt a a')
    (hfinished : a'.finishedAt.isSome = true) (hend : j'.state.isTerminal = true)
    (hid : j'.id = j.id) (hcount : j'.attemptCount = j.attemptCount)
    (hprogress : j'.progressPercent ≤ 100) : JobInv settings (j', replaced a' as) where
  owned x hx := by
    rw [hid]
    exact hi.owned_replaced ha hsame x hx
  numbers := by
    rw [replaced_numbers, hcount]
    exact hi.numbers
  bounded := by
    rw [hcount]
    exact hi.bounded
  finished x hx _ := hi.settled_replaced hnumber hsame hfinished x hx
  settled _ x hx := hi.settled_replaced hnumber hsame hfinished x hx
  queued h := by
    rw [show j'.state = .queued from h] at hend
    exact nomatch hend
  leased h := by
    have hleased : j'.state.isLeased = true := h
    cases hstate : j'.state with
    | completed | cancelled | infraError =>
      rw [hstate] at hleased
      exact absurd hleased (by decide)
    | queued | staging | running | analyzing | uploading | cancelling =>
      rw [hstate] at hend
      exact absurd hend (by decide)
  progress := hprogress

theorem JobInv.requeue {j : ValidationJob} {as : List ValidationAttempt}
    (hi : JobInv settings (j, as)) {a a' : ValidationAttempt} (ha : a ∈ as)
    (hnumber : a.number = j.attemptCount) (hsame : SameAttempt a a')
    (hfinished : a'.finishedAt.isSome = true) (hmore : j.attemptCount < settings.maxAttempts) :
    JobInv settings (requeued j, replaced a' as) where
  owned := hi.owned_replaced ha hsame
  numbers := by
    rw [replaced_numbers]
    exact hi.numbers
  bounded := hi.bounded
  finished x hx _ := hi.settled_replaced hnumber hsame hfinished x hx
  settled _ x hx := hi.settled_replaced hnumber hsame hfinished x hx
  queued _ := ⟨rfl, rfl, rfl, hmore⟩
  leased h := nomatch h
  progress := Nat.zero_le _

theorem reported?_isLeased {word : String} {state : JobState}
    (h : JobState.reported? word = some state) : state.isLeased = true := by
  have hmem := List.mem_of_find?_eq_some h
  simp only [List.mem_cons, List.not_mem_nil, or_false] at hmem
  rcases hmem with rfl | rfl | rfl | rfl | rfl <;> rfl

theorem beatJob_leased (settings : ValidationSettings) (texts : ValidationTexts) (now : ℕ)
    (payload : List (String × Json)) (progress : ℕ) (j : ValidationJob) {state : JobState}
    (h : state.isLeased = true) :
    (beatJob settings texts now payload state progress j).state.isLeased = true := by
  show (if j.state = .cancelling then JobState.cancelling else state).isLeased = true
  split
  · rfl
  · exact h

theorem change_inv {c : ValidationCall} {w w' : Work} (hi : JobInv settings w)
    (h : Change settings texts c w w') : JobInv settings w' := by
  cases h with
  | @expire j as now a _ hleased ha hnumber =>
    have hsame := expiredAttempt_same now a
    rcases expiredJob_cases settings now j with ⟨-, hjob⟩ | ⟨-, hmore, hjob⟩ |
      ⟨-, hstate, hid, hcount, hprogress⟩
    · rw [hjob]
      exact hi.end_job ha hnumber hsame rfl rfl rfl rfl hi.progress
    · rw [hjob]
      exact hi.requeue ha hnumber hsame rfl hmore
    · refine hi.end_job ha hnumber hsame rfl (by rw [hstate]; rfl) hid hcount ?_
      rw [hprogress]
      exact hi.progress
  | @claim j as now r lease _ hqueued =>
    obtain ⟨-, -, -, hmore⟩ := hi.queued hqueued
    have hall : ∀ a ∈ as, a.finishedAt.isSome = true := hi.settled (by rw [hqueued]; rfl)
    refine ⟨?_, ?_, hmore, ?_, (fun h => nomatch h), (fun h => nomatch h), ?_, hi.progress⟩
    · intro a ha
      rcases List.mem_append.mp ha with ha | ha
      · exact hi.owned a ha
      · rw [List.mem_singleton.mp ha]
        rfl
    · have hnumbers : as.map ValidationAttempt.number = List.range' 1 j.attemptCount := hi.numbers
      rw [List.map_append, hnumbers]
      show List.range' 1 j.attemptCount ++ [j.attemptCount + 1] = List.range' 1 (j.attemptCount + 1)
      rw [List.range'_concat]
      simp [Nat.add_comm]
    · intro a ha hne
      rcases List.mem_append.mp ha with ha | ha
      · exact hall a ha
      · rw [List.mem_singleton.mp ha] at hne
        exact absurd rfl hne
    · intro _
      refine ⟨_, List.mem_append_right _ (List.mem_singleton.mpr rfl), rfl, rfl, rfl⟩
  | @beat j as now r payload state progress a a' _ hlease hword _ hle hmax ha hnumber hsame hfinished =>
    have hleased : j.state.isLeased = true := hi.leased_of_lease hlease
    obtain ⟨latest, hlatest, hlnumber, hltoken, hlfinished⟩ := hi.leased hleased
    have heq : latest = a := hi.attempt_unique hlatest ha (hlnumber.trans hnumber.symm)
    have hbeat := beatJob_leased settings texts now payload progress j (reported?_isLeased hword)
    refine ⟨hi.owned_replaced ha hsame, ?_, hi.bounded, hi.finished_replaced hnumber hsame, ?_, ?_, ?_,
      hmax⟩
    · rw [replaced_numbers]
      exact hi.numbers
    · intro h
      rw [show (beatJob settings texts now payload state progress j).state.isLeased = false from h]
        at hbeat
      exact nomatch hbeat
    · intro h
      rw [show (beatJob settings texts now payload state progress j).state = .queued from h] at hbeat
      exact nomatch hbeat
    · intro _
      refine ⟨a', mem_replaced_self ha hsame.number.symm, hsame.number.trans hnumber, ?_, ?_⟩
      · rw [hsame.lease, ← heq]
        exact hltoken
      · rw [hfinished, ← heq]
        exact hlfinished
  | @conclude j j' as now r payload a a' _ hlease hend hid hcount hprogress ha hnumber hsame hfinished =>
    refine hi.end_job ha hnumber hsame (by rw [hfinished]; rfl) ?_ hid hcount ?_
    · rcases hend with ⟨hstate, -⟩ | ⟨hstate, -⟩ | ⟨hstate, -⟩
      · rw [hstate]
        rfl
      · rw [hstate]
        rfl
      · rw [hstate]
        rfl
    · rcases hprogress with hsame | hfull
      · rw [hsame]
        exact hi.progress
      · omega
  | @retry j as now r payload a a' _ _ _ hmore ha hnumber hsame hfinished =>
    exact hi.requeue ha hnumber hsame (by rw [hfinished]; rfl) hmore
  | @cancel j as now _ =>
    unfold cancelRequested
    split
    · exact hi
    · next hterminal =>
      split
      · next hqueued =>
        exact ⟨hi.owned, hi.numbers, hi.bounded, hi.finished,
          fun _ => hi.settled (by rw [show j.state = .queued from hqueued]; rfl), (fun h => nomatch h),
          (fun h => nomatch h), hi.progress⟩
      · next hqueued =>
        have hleased : j.state.isLeased = true := by
          cases hstate : j.state with
          | queued => exact absurd hstate hqueued
          | completed | cancelled | infraError => rw [hstate] at hterminal; exact absurd rfl hterminal
          | staging | running | analyzing | uploading | cancelling => rfl
        exact ⟨hi.owned, hi.numbers, hi.bounded, hi.finished, (fun h => nomatch h), (fun h => nomatch h),
          fun _ => hi.leased hleased, hi.progress⟩

/-! ## The tables -/

/-- A job with its attempts, by its id. -/
def work? (db : ValidationDb) (id : Uuid) : Option Work :=
  (db.job? id).map (fun j => (j, db.attemptsOf id))

theorem work?_some {db : ValidationDb} {id : Uuid} {w : Work} (h : db.work? id = some w) :
    db.job? id = some w.1 ∧ db.attemptsOf id = w.2 := by
  obtain ⟨j, hj, rfl⟩ := Option.map_eq_some_iff.mp h
  exact ⟨hj, rfl⟩

theorem work?_of_job {db : ValidationDb} {id : Uuid} {j : ValidationJob} (h : db.job? id = some j) :
    db.work? id = some (j, db.attemptsOf id) := by
  rw [work?, h, Option.map_some]

theorem mem_attemptsOf {db : ValidationDb} {id : Uuid} {a : ValidationAttempt} :
    a ∈ db.attemptsOf id ↔ a ∈ db.attempts ∧ a.job = id := by
  simp [attemptsOf]

theorem attempt?_mem {db : ValidationDb} {id : Uuid} {n : ℕ} {a : ValidationAttempt}
    (h : db.attempt? id n = some a) : a ∈ db.attemptsOf id ∧ a.number = n := by
  obtain ⟨hjob, hnumber⟩ := Prod.mk.inj (Rows.get?_key ValidationAttempt.key h)
  exact ⟨mem_attemptsOf.mpr ⟨Rows.get?_mem _ h, hjob⟩, hnumber⟩

theorem attempt?_isSome {db : ValidationDb} {id : Uuid} {a : ValidationAttempt}
    (h : a ∈ db.attemptsOf id) : ∃ b, db.attempt? id a.number = some b := by
  obtain ⟨hmem, rfl⟩ := mem_attemptsOf.mp h
  exact Rows.get?_isSome_of_mem ValidationAttempt.key hmem

theorem attemptsOf_saveAttempt (db : ValidationDb) (a : ValidationAttempt) (id : Uuid) :
    (db.saveAttempt a).attemptsOf id =
      if id = a.job then replaced a (db.attemptsOf id) else db.attemptsOf id := by
  unfold saveAttempt attemptsOf Rows.put
  induction db.attempts with
  | nil => simp [replaced]
  | cons x xs ih =>
    rw [List.map_cons, List.filter_cons, List.filter_cons, ih]
    by_cases hkey : x.key = a.key
    · obtain ⟨hjob, hnumber⟩ := Prod.mk.inj hkey
      by_cases hid : id = a.job
      · simp [hkey, hid, hjob, hnumber, replaced]
      · have hne : ¬ a.job = id := fun h => hid h.symm
        simp [hkey, hid, hjob, hne]
    · by_cases hid : id = a.job
      · by_cases hxjob : x.job = id
        · have hnumber : x.number ≠ a.number := by
            intro h
            exact hkey (Prod.ext (hxjob.trans hid) h)
          simp only [if_neg hkey, hxjob, if_pos hid, decide_true, if_true, replaced, List.map_cons,
            if_neg hnumber]
        · simp [hkey, hid, hid ▸ hxjob]
      · simp [hkey, hid]

/-- A job as `create_job` leaves it. -/
structure NewJob (w : Work) : Prop where
  state : w.1.state = .queued
  runner : w.1.runner = none
  lease : w.1.leaseToken = none
  expiry : w.1.leaseExpiresAt = none
  progress : w.1.progressPercent = 0
  count : w.1.attemptCount = 0
  attempts : w.2 = []

theorem NewJob.inv {w : Work} (h : NewJob w) (hmax : 1 ≤ settings.maxAttempts) :
    JobInv settings w where
  owned a ha := by
    rw [h.attempts] at ha
    exact nomatch ha
  numbers := by
    rw [h.attempts, h.count]
    rfl
  bounded := by
    rw [h.count]
    omega
  finished a ha := by
    rw [h.attempts] at ha
    exact nomatch ha
  settled _ a ha := by
    rw [h.attempts] at ha
    exact nomatch ha
  queued _ := by
    refine ⟨h.runner, h.lease, h.expiry, ?_⟩
    rw [h.count]
    omega
  leased hleased := by
    rw [h.state] at hleased
    exact nomatch hleased
  progress := by
    rw [h.progress]
    omega

/-- What holds of the tables between calls. -/
structure DbInv (settings : ValidationSettings) (db : ValidationDb) : Prop where
  nodup : (db.jobs.map ValidationJob.id).Nodup
  fresh : ∀ j ∈ db.jobs, j.id < db.nextUuid
  owners : ∀ a ∈ db.attempts, a.job < db.nextUuid
  jobs : ∀ id w, db.work? id = some w → JobInv settings w

/-- The calls that reclaim, and may change a job more than once. -/
def Sweeps : ValidationCall → Prop
  | .claim _ _ | .reclaimExpired _ => True
  | _ => False

def Changes (settings : ValidationSettings) (texts : ValidationTexts) (c : ValidationCall)
    (w w' : Work) : Prop :=
  w' = w ∨ Change settings texts c w w' ∨
    (Sweeps c ∧ Relation.ReflTransGen (Change settings texts c) w w')

theorem Changes.chain {c : ValidationCall} {w w' : Work} (h : Changes settings texts c w w') :
    Relation.ReflTransGen (Change settings texts c) w w' := by
  rcases h with rfl | hone | ⟨-, hmany⟩
  · exact .refl
  · exact .single hone
  · exact hmany

/-- The tables change by changes to single jobs, and new jobs. -/
structure Steps (settings : ValidationSettings) (texts : ValidationTexts) (c : ValidationCall)
    (db db' : ValidationDb) : Prop where
  nodup : (db'.jobs.map ValidationJob.id).Nodup
  fresh : ∀ j ∈ db'.jobs, j.id < db'.nextUuid
  owners : ∀ a ∈ db'.attempts, a.job < db'.nextUuid
  old : ∀ id w, db.work? id = some w →
    ∃ w', db'.work? id = some w' ∧ Changes settings texts c w w'
  new : ∀ id w', db'.work? id = some w' → db.work? id = none →
    (∃ now request, c = .createJob now request) ∧ NewJob w'

theorem changes_inv {c : ValidationCall} {w w' : Work} (hi : JobInv settings w)
    (h : Relation.ReflTransGen (Change settings texts c) w w') : JobInv settings w' := by
  induction h with
  | refl => exact hi
  | tail _ hlast ih => exact change_inv ih hlast

theorem Steps.inv {c : ValidationCall} {db db' : ValidationDb} (h : Steps settings texts c db db')
    (hmax : 1 ≤ settings.maxAttempts) (hi : DbInv settings db) : DbInv settings db' := by
  refine ⟨h.nodup, h.fresh, h.owners, ?_⟩
  intro id w' hw'
  cases hw : db.work? id with
  | none =>
    obtain ⟨-, hnew⟩ := h.new id w' hw' hw
    exact hnew.inv hmax
  | some w =>
    obtain ⟨x, hx, hchanges⟩ := h.old id w hw
    rw [hw'] at hx
    rw [Option.some.inj hx]
    exact changes_inv (hi.jobs id w hw) hchanges.chain

theorem Steps.trans {c : ValidationCall} {a b d : ValidationDb}
    (hab : Steps settings texts c a b) (hc : Sweeps c) (hbd : Steps settings texts c b d) :
    Steps settings texts c a d where
  nodup := hbd.nodup
  fresh := hbd.fresh
  owners := hbd.owners
  old id w hw := by
    obtain ⟨x, hx, hax⟩ := hab.old id w hw
    obtain ⟨y, hy, hxy⟩ := hbd.old id x hx
    exact ⟨y, hy, .inr (.inr ⟨hc, hax.chain.trans hxy.chain⟩)⟩
  new id y hy hnone := by
    cases hx : b.work? id with
    | none => exact hbd.new id y hy hx
    | some x =>
      obtain ⟨⟨now, request, rfl⟩, -⟩ := hab.new id x hx hnone
      exact hc.elim

theorem steps_of_same {c : ValidationCall} {db db' : ValidationDb} (hi : DbInv settings db)
    (hjobs : db'.jobs = db.jobs) (hattempts : db'.attempts = db.attempts)
    (huuid : db'.nextUuid = db.nextUuid) : Steps settings texts c db db' := by
  have hwork : ∀ id, db'.work? id = db.work? id := by
    intro id
    unfold work? job? attemptsOf
    rw [hjobs, hattempts]
  refine ⟨?_, ?_, ?_, ?_, ?_⟩
  · rw [hjobs]
    exact hi.nodup
  · rw [hjobs, huuid]
    exact hi.fresh
  · rw [hattempts, huuid]
    exact hi.owners
  · intro id w hw
    exact ⟨w, (hwork id).trans hw, .inl rfl⟩
  · intro id w' hw' hnone
    rw [hwork id, hnone] at hw'
    exact nomatch hw'

theorem steps_of_change {c : ValidationCall} {db db' : ValidationDb} (hi : DbInv settings db)
    {j j' : ValidationJob} {as' : List ValidationAttempt} (hj : db.job? j.id = some j)
    (hid : j'.id = j.id) (hjobs : db'.jobs = Rows.put ValidationJob.id db.jobs j')
    (hattempts : ∀ id, db'.attemptsOf id = if id = j.id then as' else db.attemptsOf id)
    (huuid : db.nextUuid ≤ db'.nextUuid)
    (hchange : Change settings texts c (j, db.attemptsOf j.id) (j', as')) :
    Steps settings texts c db db' := by
  have hread : ∀ id, db'.job? id = if id = j.id then some j' else db.job? id := by
    intro id
    unfold job?
    rw [hjobs, Rows.get?_put, hid]
    by_cases h : id = j.id
    · have hold : Rows.get? ValidationJob.id db.jobs id = some j := by
        rw [h]
        exact hj
      rw [if_pos h, if_pos h, hold, Option.map_some]
    · rw [if_neg h, if_neg h]
  have hwork : ∀ id, db'.work? id = if id = j.id then some (j', as') else db.work? id := by
    intro id
    unfold work?
    rw [hread, hattempts]
    by_cases h : id = j.id
    · rw [if_pos h, if_pos h, if_pos h, Option.map_some]
    · rw [if_neg h, if_neg h, if_neg h]
  have hjfresh : j.id < db.nextUuid := hi.fresh j (Rows.get?_mem _ hj)
  refine ⟨?_, ?_, ?_, ?_, ?_⟩
  · rw [hjobs, Rows.map_key_put]
    exact hi.nodup
  · intro x hx
    rw [hjobs] at hx
    rcases Rows.mem_put _ hx with rfl | ⟨hx, -⟩
    · rw [hid]
      exact lt_of_lt_of_le hjfresh huuid
    · exact lt_of_lt_of_le (hi.fresh x hx) huuid
  · intro a ha
    have hmem : a ∈ db'.attemptsOf a.job := mem_attemptsOf.mpr ⟨ha, rfl⟩
    rw [hattempts] at hmem
    by_cases h : a.job = j.id
    · rw [h]
      exact lt_of_lt_of_le hjfresh huuid
    · rw [if_neg h] at hmem
      exact lt_of_lt_of_le (hi.owners a (mem_attemptsOf.mp hmem).1) huuid
  · intro id w hw
    rw [hwork]
    by_cases h : id = j.id
    · rw [if_pos h]
      rw [h, work?_of_job hj] at hw
      rw [← Option.some.inj hw]
      exact ⟨_, rfl, .inr (.inl hchange)⟩
    · rw [if_neg h]
      exact ⟨w, hw, .inl rfl⟩
  · intro id w' hw' hnone
    rw [hwork] at hw'
    by_cases h : id = j.id
    · rw [h, work?_of_job hj] at hnone
      exact nomatch hnone
    · rw [if_neg h, hnone] at hw'
      exact nomatch hw'

theorem attemptsOf_replaced {db : ValidationDb} {j : ValidationJob} {a a' : ValidationAttempt}
    (ha : a ∈ db.attemptsOf j.id) (hsame : SameAttempt a a') (id : Uuid) :
    (db.saveAttempt a').attemptsOf id =
      if id = j.id then replaced a' (db.attemptsOf j.id) else db.attemptsOf id := by
  have hjob : a'.job = j.id := hsame.job.trans (mem_attemptsOf.mp ha).2
  rw [attemptsOf_saveAttempt, hjob]
  by_cases h : id = j.id
  · rw [if_pos h, if_pos h, h]
  · rw [if_neg h, if_neg h]

/-! ## What each call does -/

theorem expiredJob_id (settings : ValidationSettings) (now : ℕ) (j : ValidationJob) :
    (expiredJob settings now j).id = j.id := by
  rcases expiredJob_cases settings now j with ⟨-, h⟩ | ⟨-, -, h⟩ | ⟨-, -, h, -⟩
  · rw [h]
  · rw [h]
    rfl
  · exact h

theorem reclaim_steps {c : ValidationCall} {db : ValidationDb} {now : ℕ} {j : ValidationJob}
    (hc : c = .reclaimExpired now ∨ ∃ r, c = .claim now r) (hi : DbInv settings db)
    (hj : db.job? j.id = some j) (hleased : j.state.isLeased = true) :
    Steps settings texts c db (db.reclaim settings now j) := by
  obtain ⟨latest, hlatest, hnumber, -, -⟩ := (hi.jobs j.id _ (work?_of_job hj)).leased hleased
  obtain ⟨a, ha⟩ := attempt?_isSome hlatest
  rw [show latest.number = j.attemptCount from hnumber] at ha
  obtain ⟨hmem, hanumber⟩ := attempt?_mem ha
  have hdb : db.reclaim settings now j =
      (db.saveAttempt (expiredAttempt now a)).saveJob (expiredJob settings now j) := by
    rw [reclaim, ha]
  rw [hdb]
  exact steps_of_change hi hj (expiredJob_id settings now j) rfl
    (attemptsOf_replaced hmem (expiredAttempt_same now a)) (le_refl _)
    (.expire now a hc hleased hmem hanumber)

theorem reclaim_other {db : ValidationDb} {now : ℕ} {j : ValidationJob} {id : Uuid}
    (h : id ≠ j.id) : (db.reclaim settings now j).job? id = db.job? id := by
  have hput : (db.reclaim settings now j).jobs =
      Rows.put ValidationJob.id db.jobs (expiredJob settings now j) := by
    unfold reclaim
    split
    · rfl
    · rfl
  unfold job?
  rw [hput]
  apply Rows.get?_put_ne
  rw [expiredJob_id]
  exact h

theorem sweeps_of_expires {c : ValidationCall} {now : ℕ}
    (hc : c = .reclaimExpired now ∨ ∃ r, c = .claim now r) : Sweeps c := by
  rcases hc with rfl | ⟨r, rfl⟩
  · trivial
  · trivial

theorem reclaims_steps {c : ValidationCall} {now : ℕ}
    (hc : c = .reclaimExpired now ∨ ∃ r, c = .claim now r) (hmax : 1 ≤ settings.maxAttempts)
    (js : List ValidationJob) (hnodup : (js.map ValidationJob.id).Nodup) :
    ∀ db : ValidationDb, DbInv settings db →
      (∀ j ∈ js, db.job? j.id = some j ∧ j.state.isLeased = true) →
      Steps settings texts c db (js.foldl (reclaim settings now) db) := by
  induction js with
  | nil =>
    intro db hi _
    exact steps_of_same hi rfl rfl rfl
  | cons j js ih =>
    intro db hi hjs
    rw [List.map_cons, List.nodup_cons] at hnodup
    obtain ⟨hj, hleased⟩ := hjs j (List.mem_cons_self ..)
    have hfirst : Steps settings texts c db (db.reclaim settings now j) :=
      reclaim_steps hc hi hj hleased
    refine hfirst.trans (sweeps_of_expires hc) (ih hnodup.2 _ (hfirst.inv hmax hi) ?_)
    intro x hx
    have hne : x.id ≠ j.id := fun h => hnodup.1 (h ▸ List.mem_map_of_mem hx)
    rw [reclaim_other hne]
    exact hjs x (List.mem_cons_of_mem _ hx)

theorem reclaimExpired_steps {c : ValidationCall} {db : ValidationDb} {now : ℕ}
    (hc : c = .reclaimExpired now ∨ ∃ r, c = .claim now r) (hmax : 1 ≤ settings.maxAttempts)
    (hi : DbInv settings db) : Steps settings texts c db (db.reclaimExpired settings now) := by
  refine reclaims_steps hc hmax _ ?_ db hi ?_
  · exact (List.Sublist.map _ List.filter_sublist).nodup hi.nodup
  · intro j hj
    obtain ⟨hmem, hexpired⟩ := List.mem_filter.mp hj
    rw [isExpired, Bool.and_eq_true] at hexpired
    exact ⟨Rows.get?_of_mem _ hi.nodup hmem, hexpired.1⟩

theorem oldest_mem {jobs : List ValidationJob} {j : ValidationJob} (h : oldest jobs = some j) :
    j ∈ jobs := by
  induction jobs generalizing j with
  | nil => exact nomatch h
  | cons x xs ih =>
    rw [oldest] at h
    split at h
    · rw [Option.some.inj h]
      exact List.mem_cons_self ..
    · next other hother =>
      split at h
      · rw [← Option.some.inj h]
        exact List.mem_cons_of_mem _ (ih hother)
      · rw [Option.some.inj h]
        exact List.mem_cons_self ..

theorem claim_steps {db db' : ValidationDb} {now : ℕ} {r : ValidationRunner}
    (hmax : 1 ≤ settings.maxAttempts) (hi : DbInv settings db)
    (h : db.claim settings texts now r = .ok db') :
    Steps settings texts (.claim now r) db db' := by
  have hreclaim : Steps settings texts (.claim now r) db (db.reclaimExpired settings now) :=
    reclaimExpired_steps (.inr ⟨r, rfl⟩) hmax hi
  have hi₁ : DbInv settings (db.reclaimExpired settings now) := hreclaim.inv hmax hi
  refine hreclaim.trans trivial ?_
  unfold claim at h
  dsimp only at h
  generalize db.reclaimExpired settings now = db₁ at h hi₁ ⊢
  split at h
  · exact nomatch h
  · next modes _ =>
    split at h
    · rw [← Except.ok.inj h]
      exact steps_of_same hi₁ rfl rfl rfl
    · next j hoffered =>
      obtain ⟨hmem, hoffer⟩ := List.mem_filter.mp (oldest_mem hoffered)
      rw [Bool.and_eq_true, decide_eq_true_eq] at hoffer
      have hj : db₁.job? j.id = some j := Rows.get?_of_mem _ hi₁.nodup hmem
      rw [← Except.ok.inj h]
      have hid : (claimedJob settings now r db₁.nextUuid j).id = j.id := rfl
      refine steps_of_change hi₁ hj hid rfl ?_ (Nat.le_succ _)
        (.claim now r db₁.nextUuid rfl hoffer.1)
      intro id
      show List.filter _ (db₁.attempts ++ _) = _
      rw [List.filter_append]
      by_cases hid : id = j.id
      · rw [if_pos hid, hid]
        simp [attemptsOf, claimedJob]
      · have hne : ¬ j.id = id := fun h => hid h.symm
        rw [if_neg hid]
        simp [attemptsOf, hne]

theorem heartbeat_ok {db db' : ValidationDb} {now : ℕ} {id : Uuid} {r : ValidationRunner}
    {payload : List (String × Json)}
    (h : db.heartbeat settings texts now id r payload = .ok db') :
    ∃ (j : ValidationJob) (state : JobState) (progress : ℕ) (a : ValidationAttempt),
      db.job? id = some j ∧ validateLease texts j r (leaseOf payload) = none ∧
      JobState.reported? (reportedState texts j payload) = some state ∧
      reportedProgress texts j payload = some (progress : ℤ) ∧
      j.progressPercent ≤ progress ∧ progress ≤ 100 ∧
      db.attempt? id j.attemptCount = some a ∧
      db' = ((db.saveJob (beatJob settings texts now payload state progress j)).saveRunner r "busy"
        now).saveAttempt
          { a with
            state := (beatJob settings texts now payload state progress j).state
            runtimeMetrics := Json.getOr payload "runtime_metrics" a.runtimeMetrics } := by
  unfold heartbeat at h
  split at h
  · exact nomatch h
  · next j hj =>
    split at h
    · exact nomatch h
    · next hlease =>
      split at h
      · exact nomatch h
      · next state hstate =>
        split at h
        · exact nomatch h
        · next progress hprogress =>
          split at h
          · exact nomatch h
          · next hrange =>
            rw [not_or, not_lt, not_lt] at hrange
            split at h
            · exact nomatch h
            · next a ha =>
              have hnonneg : (progress.toNat : ℤ) = progress := by
                apply Int.toNat_of_nonneg
                exact le_trans (Int.natCast_nonneg _) hrange.1
              refine ⟨j, state, progress.toNat, a, hj, hlease, hstate, ?_, ?_, ?_, ha,
                (Except.ok.inj h).symm⟩
              · rw [hprogress, hnonneg]
              · omega
              · omega

theorem heartbeat_steps {db db' : ValidationDb} {now : ℕ} {id : Uuid} {r : ValidationRunner}
    {payload : List (String × Json)} (hi : DbInv settings db)
    (h : db.heartbeat settings texts now id r payload = .ok db') :
    Steps settings texts (.heartbeat now id r payload) db db' := by
  obtain ⟨j, state, progress, a, hj, hlease, hword, hprogress, hle, hmax, ha, rfl⟩ := heartbeat_ok h
  obtain rfl : j.id = id := Rows.get?_key ValidationJob.id hj
  obtain ⟨hmem, hnumber⟩ := attempt?_mem ha
  have hid : (beatJob settings texts now payload state progress j).id = j.id := rfl
  have hattempts : ∀ k, (db.saveAttempt
      { a with
        state := (beatJob settings texts now payload state progress j).state
        runtimeMetrics := Json.getOr payload "runtime_metrics" a.runtimeMetrics }).attemptsOf k = _ :=
    attemptsOf_replaced hmem ⟨rfl, rfl, rfl⟩
  exact steps_of_change hi hj hid rfl hattempts (le_refl _)
    (.beat now r payload state progress a _ rfl hlease hword hprogress hle hmax hmem hnumber
      ⟨rfl, rfl, rfl⟩ rfl)

theorem complete_ok {db db' : ValidationDb} {now : ℕ} {id : Uuid} {r : ValidationRunner}
    {payload : List (String × Json)}
    (h : db.complete settings texts now id r payload = .ok db') :
    ∃ (j : ValidationJob) (a : ValidationAttempt),
      db.job? id = some j ∧ validateLease texts j r (leaseOf payload) = none ∧
      db.attempt? id j.attemptCount = some a ∧
      ((outcomeOf texts payload = "cancelled" ∨ j.state = .cancelling) ∧
          db' = completeCancelled now db r j a ∨
        j.state ≠ .cancelling ∧ db' = completeInfraError settings texts now db r j a payload ∨
        j.state ≠ .cancelling ∧ completeChecked texts now db r j a payload = .ok db') := by
  unfold complete at h
  split at h
  · exact nomatch h
  · next j hj =>
    split at h
    · exact nomatch h
    · next hlease =>
      split at h
      · exact nomatch h
      · next a ha =>
        refine ⟨j, a, hj, hlease, ha, ?_⟩
        split at h
        · next hcancelled => exact .inl ⟨hcancelled, (Except.ok.inj h).symm⟩
        · next hcancelled =>
          rw [not_or] at hcancelled
          split at h
          · exact .inr (.inl ⟨hcancelled.2, (Except.ok.inj h).symm⟩)
          · exact .inr (.inr ⟨hcancelled.2, h⟩)

theorem conclude_steps {db db₁ : ValidationDb} {now : ℕ} {r : ValidationRunner}
    {payload : List (String × Json)} {j j' : ValidationJob} {a a' : ValidationAttempt}
    (hi : DbInv settings db) (hj : db.job? j.id = some j)
    (hlease : validateLease texts j r (leaseOf payload) = none)
    (hend : j'.state = .cancelled ∧ (outcomeOf texts payload = "cancelled" ∨ j.state = .cancelling) ∨
      j'.state = .infraError ∧ j.state ≠ .cancelling ∨
      j'.state = .completed ∧ j.state ≠ .cancelling)
    (hid : j'.id = j.id) (hcount : j'.attemptCount = j.attemptCount)
    (hprogress : j'.progressPercent = j.progressPercent ∨ j'.progressPercent = 100)
    (ha : db.attempt? j.id j.attemptCount = some a) (hsame : SameAttempt a a')
    (hjobs : db₁.jobs = db.jobs) (hattempts : db₁.attempts = db.attempts)
    (huuid : db₁.nextUuid = db.nextUuid) :
    Steps settings texts (.complete now j.id r payload) db (conclude now db₁ r j' a') := by
  obtain ⟨hmem, hnumber⟩ := attempt?_mem ha
  have hmem₁ : a ∈ db₁.attemptsOf j.id := by
    rw [attemptsOf, hattempts]
    exact hmem
  have hfinal : SameAttempt a { a' with finishedAt := some now } :=
    ⟨hsame.job, hsame.number, hsame.lease⟩
  have hchange : Change settings texts (.complete now j.id r payload) (j, db.attemptsOf j.id)
      ({ j' with
          finishedAt := if j'.state.isTerminal then some now else none
          leaseExpiresAt := if j'.state.isTerminal then none else j'.leaseExpiresAt },
        replaced { a' with finishedAt := some now } (db.attemptsOf j.id)) :=
    .conclude now r payload a _ rfl hlease hend hid hcount hprogress hmem hnumber hfinal rfl
  unfold conclude
  dsimp only
  refine steps_of_change hi hj ?_ ?_ ?_ (le_of_eq huuid.symm) hchange
  · exact hid
  · show Rows.put ValidationJob.id db₁.jobs _ = _
    rw [hjobs]
  · intro id
    have hread := attemptsOf_replaced hmem₁ hfinal id
    have hsame₁ : ∀ k, db₁.attemptsOf k = db.attemptsOf k := by
      intro k
      rw [attemptsOf, attemptsOf, hattempts]
    rw [hsame₁, hsame₁] at hread
    exact hread

theorem complete_steps {db db' : ValidationDb} {now : ℕ} {id : Uuid} {r : ValidationRunner}
    {payload : List (String × Json)} (hi : DbInv settings db)
    (h : db.complete settings texts now id r payload = .ok db') :
    Steps settings texts (.complete now id r payload) db db' := by
  obtain ⟨j, a, hj, hlease, ha, hbranch⟩ := complete_ok h
  obtain rfl : j.id = id := Rows.get?_key ValidationJob.id hj
  rcases hbranch with ⟨hcancelled, rfl⟩ | ⟨hcancelling, rfl⟩ | ⟨hcancelling, hchecked⟩
  · exact conclude_steps hi hj hlease (.inl ⟨rfl, hcancelled⟩) rfl rfl (.inl rfl) ha ⟨rfl, rfl, rfl⟩ rfl
      rfl rfl
  · unfold completeInfraError
    dsimp only
    split
    · next hmore =>
      obtain ⟨hmem, hnumber⟩ := attempt?_mem ha
      have hid : (requeued j).id = j.id := rfl
      have hsame : SameAttempt a { failedAttempt texts payload a with finishedAt := some now } :=
        ⟨rfl, rfl, rfl⟩
      exact steps_of_change hi hj hid rfl (attemptsOf_replaced hmem hsame) (le_refl _)
        (.retry now r payload a _ rfl hlease hcancelling hmore hmem hnumber hsame rfl)
    · exact conclude_steps hi hj hlease (.inr (.inl ⟨rfl, hcancelling⟩)) rfl rfl (.inl rfl) ha
        ⟨rfl, rfl, rfl⟩ rfl rfl rfl
  · unfold completeChecked at hchecked
    split at hchecked
    · exact nomatch hchecked
    · split at hchecked
      · exact nomatch hchecked
      · rw [← Except.ok.inj hchecked]
        exact conclude_steps hi hj hlease (.inr (.inr ⟨rfl, hcancelling⟩)) rfl rfl (.inr rfl) ha
          ⟨rfl, rfl, rfl⟩ rfl rfl rfl

theorem requestCancel_steps {db db' : ValidationDb} {now : ℕ} {id : Uuid} (hi : DbInv settings db)
    (h : db.requestCancel now id = .ok db') :
    Steps settings texts (.requestCancel now id) db db' := by
  unfold requestCancel at h
  split at h
  · exact nomatch h
  · next j hj =>
    obtain rfl : j.id = id := Rows.get?_key ValidationJob.id hj
    rw [← Except.ok.inj h]
    have hid : (cancelRequested now j).id = j.id := by
      unfold cancelRequested
      split
      · rfl
      · split
        · rfl
        · rfl
    refine steps_of_change hi hj hid rfl ?_ (le_refl _) (.cancel now rfl)
    intro k
    by_cases hk : k = j.id
    · rw [if_pos hk, hk]
      rfl
    · rw [if_neg hk]
      rfl

theorem createJob_steps {db db' : ValidationDb} {now : ℕ} {request : JobRequest}
    (hi : DbInv settings db) (h : db.createJob texts now request = .ok db') :
    Steps settings texts (.createJob now request) db db' := by
  unfold createJob at h
  split at h
  · exact nomatch h
  · split at h
    · exact nomatch h
    · split at h
      · exact nomatch h
      · dsimp only at h
        split at h
        · rw [← Except.ok.inj h]
          exact steps_of_same hi rfl rfl rfl
        · rw [← Except.ok.inj h]
          have hnone : ∀ w, db.work? db.nextUuid = some w → False := by
            intro w hw
            have hfresh := hi.fresh w.1 (Rows.get?_mem _ (work?_some hw).1)
            rw [Rows.get?_key ValidationJob.id (work?_some hw).1] at hfresh
            exact lt_irrefl _ hfresh
          refine ⟨?_, ?_, ?_, ?_, ?_⟩
          · rw [List.map_append, List.nodup_append]
            refine ⟨hi.nodup, by simp, ?_⟩
            intro x hx y hy heq
            obtain ⟨j, hj, rfl⟩ := List.mem_map.mp hx
            have hy' : y = db.nextUuid := by simpa using hy
            have hfresh := hi.fresh j hj
            rw [heq, hy'] at hfresh
            exact lt_irrefl _ hfresh
          · intro j hj
            rcases List.mem_append.mp hj with hj | hj
            · exact Nat.lt_succ_of_lt (hi.fresh j hj)
            · rw [List.mem_singleton.mp hj]
              exact Nat.lt_succ_self _
          · intro a ha
            exact Nat.lt_succ_of_lt (hi.owners a ha)
          · intro id w hw
            refine ⟨w, ?_, .inl rfl⟩
            obtain ⟨hj, has⟩ := work?_some hw
            show (Rows.get? ValidationJob.id (db.jobs ++ [_]) id).map _ = some w
            rw [Rows.get?_insert_of_some ValidationJob.id hj, Option.map_some]
            exact congrArg some (Prod.ext rfl has)
          · intro id w' hw' hold
            obtain ⟨hj, has⟩ := work?_some hw'
            have hid := Rows.get?_key ValidationJob.id hj
            have hjnone : db.job? id = none := by
              cases hjob : db.job? id with
              | none => rfl
              | some j =>
                rw [work?_of_job hjob] at hold
                exact nomatch hold
            rcases List.mem_append.mp (Rows.get?_mem _ hj) with hmem | hmem
            · rw [← hid] at hjnone
              exact absurd hmem ((Rows.get?_eq_none ValidationJob.id).mp hjnone w'.1 · rfl)
            · have hw : w'.1.id = db.nextUuid := by rw [List.mem_singleton.mp hmem]
              refine ⟨⟨now, request, rfl⟩, ?_⟩
              have hnoattempts : w'.2 = [] := by
                rw [← has]
                refine List.filter_eq_nil_iff.mpr ?_
                intro a ha
                have hlt := hi.owners a ha
                rw [← hw, hid] at hlt
                simpa using Nat.ne_of_lt hlt
              have hrow := List.mem_singleton.mp hmem
              refine ⟨?_, ?_, ?_, ?_, ?_, ?_, hnoattempts⟩
              all_goals rw [hrow]

theorem step_steps (hmax : 1 ≤ settings.maxAttempts) {db : ValidationDb} (hi : DbInv settings db)
    (c : ValidationCall) : Steps settings texts c db (db.step settings texts c) := by
  unfold step
  cases hcall : db.call settings texts c with
  | error raised => exact steps_of_same hi rfl rfl rfl
  | ok db' =>
    cases c with
    | createJob now request => exact createJob_steps hi hcall
    | claim now r => exact claim_steps hmax hi hcall
    | heartbeat now id r payload => exact heartbeat_steps hi hcall
    | complete now id r payload => exact complete_steps hi hcall
    | requestCancel now id => exact requestCancel_steps hi hcall
    | reclaimExpired now =>
      rw [← Except.ok.inj hcall]
      exact reclaimExpired_steps (.inl rfl) hmax hi

/-! ## What follows for one job -/

theorem change_terminal {c : ValidationCall} {w w' : Work} (hi : JobInv settings w)
    (h : Change settings texts c w w') (hterminal : w.1.state.isTerminal = true) : w' = w := by
  have hnot : w.1.state.isLeased = false := by
    cases hstate : w.1.state with
    | completed | cancelled | infraError => rfl
    | queued | staging | running | analyzing | uploading | cancelling =>
      rw [hstate] at hterminal
      exact absurd hterminal (by decide)
  cases h with
  | expire now a _ hleased _ _ => exact absurd hleased (by rw [hnot]; decide)
  | @claim j as now r lease _ hqueued =>
    rw [show j.state = .queued from hqueued] at hterminal
    exact absurd hterminal (by decide)
  | beat now r payload state progress a a' _ hlease =>
    exact absurd (hi.leased_of_lease hlease) (by rw [hnot]; decide)
  | conclude now r payload a a' _ hlease =>
    exact absurd (hi.leased_of_lease hlease) (by rw [hnot]; decide)
  | retry now r payload a a' _ hlease =>
    exact absurd (hi.leased_of_lease hlease) (by rw [hnot]; decide)
  | @cancel j as now _ =>
    unfold cancelRequested
    rw [if_pos (show j.state.isTerminal = true from hterminal)]

/-- How far a job has come: its attempt, and its progress while the attempt is not finished. -/
def standing (w : Work) : ℕ ×ₗ ℕ :=
  toLex (w.1.attemptCount, if w.1.state.isLeased then w.1.progressPercent else 101)

theorem standing_le_of_settled {w w' : Work} (hi : JobInv settings w)
    (hcount : w'.1.attemptCount = w.1.attemptCount) (hsettled : w'.1.state.isLeased = false) :
    standing w ≤ standing w' := by
  rw [standing, standing, Prod.Lex.le_iff]
  right
  refine ⟨hcount.symm, ?_⟩
  show (if w.1.state.isLeased then w.1.progressPercent else 101) ≤
    (if w'.1.state.isLeased then w'.1.progressPercent else 101)
  rw [hsettled]
  have hprogress := hi.progress
  split
  · simp only [Bool.false_eq_true, if_false]
    omega
  · simp

theorem standing_le {c : ValidationCall} {w w' : Work} (hi : JobInv settings w)
    (h : Change settings texts c w w') : standing w ≤ standing w' := by
  cases h with
  | @expire j as now a _ hleased _ _ =>
    rcases expiredJob_cases settings now j with ⟨-, hjob⟩ | ⟨-, -, hjob⟩ | ⟨-, hstate, -, hcount, -⟩
    · rw [hjob]
      exact standing_le_of_settled hi rfl rfl
    · rw [hjob]
      exact standing_le_of_settled hi rfl rfl
    · refine standing_le_of_settled hi hcount ?_
      show (expiredJob settings now j).state.isLeased = false
      rw [hstate]
      rfl
  | @claim j as now r lease _ _ =>
    rw [standing, standing, Prod.Lex.le_iff]
    left
    exact Nat.lt_succ_self j.attemptCount
  | @beat j as now r payload state progress a a' _ hlease hword _ hle =>
    rw [standing, standing, Prod.Lex.le_iff]
    right
    refine ⟨rfl, ?_⟩
    have hbeat := beatJob_leased settings texts now payload progress j (reported?_isLeased hword)
    show (if j.state.isLeased then j.progressPercent else 101) ≤
      (if (beatJob settings texts now payload state progress j).state.isLeased then progress else 101)
    rw [if_pos hbeat, if_pos (hi.leased_of_lease hlease)]
    exact hle
  | @conclude j j' as now r payload a a' _ _ hend _ hcount =>
    refine standing_le_of_settled hi hcount ?_
    show j'.state.isLeased = false
    rcases hend with ⟨hstate, -⟩ | ⟨hstate, -⟩ | ⟨hstate, -⟩
    · rw [hstate]
      rfl
    · rw [hstate]
      rfl
    · rw [hstate]
      rfl
  | retry => exact standing_le_of_settled hi rfl rfl
  | @cancel j as now _ =>
    unfold cancelRequested
    split
    · exact le_refl _
    · split
      · exact standing_le_of_settled hi rfl rfl
      · next hterminal hqueued =>
        rw [standing, standing, Prod.Lex.le_iff]
        right
        refine ⟨rfl, ?_⟩
        have hleased : j.state.isLeased = true := by
          cases hstate : j.state with
          | queued => exact absurd hstate hqueued
          | completed | cancelled | infraError => rw [hstate] at hterminal; exact absurd rfl hterminal
          | staging | running | analyzing | uploading | cancelling => rfl
        show (if j.state.isLeased then j.progressPercent else 101) ≤ j.progressPercent
        rw [if_pos hleased]

/-- The job is being cancelled or was cancelled. -/
def IsCancelled (j : ValidationJob) : Prop := j.state = .cancelling ∨ j.state = .cancelled

/-- The call asks for the cancellation of the job, or its runner reports one under the lease. -/
def ReportsCancel (texts : ValidationTexts) (j : ValidationJob) : ValidationCall → Prop
  | .requestCancel _ id => id = j.id ∧ j.state.isTerminal = false
  | .heartbeat _ id r payload =>
    id = j.id ∧ validateLease texts j r (leaseOf payload) = none ∧
      JobState.reported? (reportedState texts j payload) = some .cancelling
  | .complete _ id r payload =>
    id = j.id ∧ validateLease texts j r (leaseOf payload) = none ∧
      outcomeOf texts payload = "cancelled"
  | _ => False

theorem change_cancelled {c : ValidationCall} {w w' : Work} (hi : JobInv settings w)
    (h : Change settings texts c w w') (hcancelled : IsCancelled w.1) : IsCancelled w'.1 := by
  rcases hcancelled with hcancelling | hended
  · cases h with
    | @expire j as now a _ _ _ _ =>
      rcases expiredJob_cases settings now j with ⟨-, hjob⟩ | ⟨hne, -⟩ | ⟨hne, -⟩
      · rw [hjob]
        exact .inr rfl
      · exact absurd hcancelling hne
      · exact absurd hcancelling hne
    | @claim j as now r lease _ hqueued =>
      rw [show j.state = .queued from hqueued] at hcancelling
      exact nomatch hcancelling
    | @beat j as now r payload state progress a a' =>
      left
      show (if j.state = .cancelling then JobState.cancelling else state) = .cancelling
      rw [if_pos hcancelling]
    | conclude now r payload a a' _ _ hend =>
      rcases hend with ⟨hstate, -⟩ | ⟨-, hne⟩ | ⟨-, hne⟩
      · exact .inr hstate
      · exact absurd hcancelling hne
      · exact absurd hcancelling hne
    | retry now r payload a a' _ _ hne => exact absurd hcancelling hne
    | @cancel j as now _ =>
      have hstate : j.state = .cancelling := hcancelling
      left
      show (cancelRequested now j).state = .cancelling
      rw [cancelRequested, hstate]
      rfl
  · rw [change_terminal hi h (by rw [hended]; rfl)]
    exact .inr hended

theorem change_reportsCancel {c : ValidationCall} {w w' : Work}
    (h : Change settings texts c w w') (hbefore : ¬ IsCancelled w.1) (hafter : IsCancelled w'.1) :
    ReportsCancel texts w.1 c := by
  cases h with
  | @expire j as now a _ _ _ _ =>
    exfalso
    rcases expiredJob_cases settings now j with ⟨hcancelling, -⟩ | ⟨-, -, hjob⟩ | ⟨-, hstate, -⟩
    · exact hbefore (.inl hcancelling)
    · rw [hjob] at hafter
      rcases hafter with h | h
      · exact nomatch h
      · exact nomatch h
    · rcases hafter with h | h
      · rw [show (expiredJob settings now j).state = .cancelling from h] at hstate
        exact nomatch hstate
      · rw [show (expiredJob settings now j).state = .cancelled from h] at hstate
        exact nomatch hstate
  | claim =>
    exfalso
    rcases hafter with h | h
    · exact nomatch h
    · exact nomatch h
  | @beat j as now r payload state progress a a' hc hlease hword =>
    rw [hc]
    refine ⟨rfl, hlease, ?_⟩
    have hne : j.state ≠ .cancelling := fun h => hbefore (.inl h)
    have hstate : (beatJob settings texts now payload state progress j).state = state := by
      show (if j.state = .cancelling then JobState.cancelling else state) = state
      rw [if_neg hne]
    rcases hafter with h | h
    · rw [show (beatJob settings texts now payload state progress j).state = .cancelling from h]
        at hstate
      rw [hstate]
      exact hword
    · rw [show (beatJob settings texts now payload state progress j).state = .cancelled from h]
        at hstate
      rw [← hstate] at hword
      exact absurd (reported?_isLeased hword) (by decide)
  | @conclude j j' as now r payload a a' hc hlease hend =>
    rw [hc]
    refine ⟨rfl, hlease, ?_⟩
    rcases hend with ⟨-, houtcome | hcancelling⟩ | ⟨hstate, -⟩ | ⟨hstate, -⟩
    · exact houtcome
    · exact absurd (.inl hcancelling) hbefore
    · rcases hafter with h | h
      · rw [show j'.state = .cancelling from h] at hstate
        exact nomatch hstate
      · rw [show j'.state = .cancelled from h] at hstate
        exact nomatch hstate
    · rcases hafter with h | h
      · rw [show j'.state = .cancelling from h] at hstate
        exact nomatch hstate
      · rw [show j'.state = .cancelled from h] at hstate
        exact nomatch hstate
  | retry =>
    exfalso
    rcases hafter with h | h
    · exact nomatch h
    · exact nomatch h
  | @cancel j as now hc =>
    rw [hc]
    refine ⟨rfl, ?_⟩
    show j.state.isTerminal = false
    by_contra hterminal
    rw [Bool.not_eq_false] at hterminal
    have hsame : cancelRequested now j = j := by
      unfold cancelRequested
      rw [if_pos hterminal]
    rw [hsame] at hafter
    exact hbefore hafter

/-! ## Runs -/

variable {runners : List ValidationRunner}

/-- The tables after a sequence of calls, with these runners and no job at the start. -/
def run (settings : ValidationSettings) (texts : ValidationTexts) (runners : List ValidationRunner)
    (calls : List ValidationCall) : ValidationDb :=
  Run.exec (step settings texts) { runners := runners } calls

theorem empty_inv : DbInv settings { runners := runners } where
  nodup := List.nodup_nil
  fresh _ h := nomatch h
  owners _ h := nomatch h
  jobs _ _ h := nomatch h

theorem step_inv (hmax : 1 ≤ settings.maxAttempts) {db : ValidationDb} (hi : DbInv settings db)
    (c : ValidationCall) : DbInv settings (db.step settings texts c) :=
  (step_steps hmax hi c).inv hmax hi

theorem run_inv (hmax : 1 ≤ settings.maxAttempts) (calls : List ValidationCall) :
    DbInv settings (run settings texts runners calls) :=
  Run.exec_invariant (DbInv settings) (fun _ c hi => step_inv hmax hi c) empty_inv calls

structure Keeps (w w' : Work) : Prop where
  standing : standing w ≤ standing w'
  terminal : w.1.state.isTerminal = true → w' = w
  cancelled : IsCancelled w.1 → IsCancelled w'.1

theorem Keeps.refl (w : Work) : Keeps w w := ⟨le_refl _, fun _ => rfl, id⟩

theorem Keeps.trans {a b c : Work} (hab : Keeps a b) (hbc : Keeps b c) : Keeps a c where
  standing := le_trans hab.standing hbc.standing
  terminal h := by
    have hb : b = a := hab.terminal h
    rw [← hb] at h
    rw [hbc.terminal h, hb]
  cancelled h := hbc.cancelled (hab.cancelled h)

theorem changes_keeps {c : ValidationCall} {w w' : Work} (hi : JobInv settings w)
    (h : Relation.ReflTransGen (Change settings texts c) w w') : Keeps w w' := by
  induction h with
  | refl => exact .refl w
  | tail hbefore hlast ih =>
    have hmid := changes_inv hi hbefore
    exact ih.trans ⟨standing_le hmid hlast, change_terminal hmid hlast, change_cancelled hmid hlast⟩

theorem step_keeps (hmax : 1 ≤ settings.maxAttempts) {db : ValidationDb} (hi : DbInv settings db)
    (c : ValidationCall) {id : Uuid} {w : Work} (hw : db.work? id = some w) :
    ∃ w', (db.step settings texts c).work? id = some w' ∧ Keeps w w' := by
  obtain ⟨w', hw', hchanges⟩ := (step_steps hmax hi c).old id w hw
  exact ⟨w', hw', changes_keeps (hi.jobs id w hw) hchanges.chain⟩

theorem exec_keeps (hmax : 1 ≤ settings.maxAttempts) (calls : List ValidationCall) :
    ∀ {db : ValidationDb}, DbInv settings db → ∀ {id : Uuid} {w : Work}, db.work? id = some w →
      ∃ w', (Run.exec (step settings texts) db calls).work? id = some w' ∧ Keeps w w' := by
  induction calls with
  | nil =>
    intro db _ id w hw
    exact ⟨w, hw, .refl w⟩
  | cons c calls ih =>
    intro db hi id w hw
    obtain ⟨x, hx, hwx⟩ := step_keeps hmax hi c hw
    obtain ⟨y, hy, hxy⟩ := ih (step_inv hmax hi c) hx
    exact ⟨y, hy, hwx.trans hxy⟩

theorem run_keeps (hmax : 1 ≤ settings.maxAttempts) (calls more : List ValidationCall) {id : Uuid}
    {w : Work} (hw : (run settings texts runners calls).work? id = some w) :
    ∃ w', (run settings texts runners (calls ++ more)).work? id = some w' ∧ Keeps w w' := by
  rw [run, Run.exec_append]
  exact exec_keeps hmax more (run_inv hmax calls) hw

theorem not_isCancelled_of_sweep {c : ValidationCall} {w w' : Work} (hc : Sweeps c)
    (h : Relation.ReflTransGen (Change settings texts c) w w') (hw : ¬ IsCancelled w.1) :
    ¬ IsCancelled w'.1 := by
  induction h with
  | refl => exact hw
  | tail _ hlast ih =>
    intro hcancelled
    have hreports := change_reportsCancel hlast ih hcancelled
    cases c with
    | claim now r => exact hreports
    | reclaimExpired now => exact hreports
    | _ => exact hc

theorem step_reportsCancel (hmax : 1 ≤ settings.maxAttempts) {db : ValidationDb}
    (hi : DbInv settings db) {c : ValidationCall} {id : Uuid}
    (hbefore : ¬ ∃ j, db.job? id = some j ∧ IsCancelled j)
    (hafter : ∃ j, (db.step settings texts c).job? id = some j ∧ IsCancelled j) :
    ∃ j, db.job? id = some j ∧ ReportsCancel texts j c := by
  obtain ⟨j', hj', hcancelled⟩ := hafter
  cases hjob : db.job? id with
  | some j =>
    have hnot : ¬ IsCancelled j := fun h => hbefore ⟨j, hjob, h⟩
    refine ⟨j, rfl, ?_⟩
    obtain ⟨w', hw', hchanges⟩ := (step_steps hmax hi c).old id _ (work?_of_job hjob)
    rw [work?_of_job hj'] at hw'
    rw [← Option.some.inj hw'] at hchanges
    rcases hchanges with hsame | hone | ⟨hsweeps, hmany⟩
    · rw [← (Prod.mk.inj hsame).1] at hnot
      exact absurd hcancelled hnot
    · exact change_reportsCancel hone hnot hcancelled
    · exact absurd hcancelled (not_isCancelled_of_sweep hsweeps hmany hnot)
  | none =>
    exfalso
    have hwork : db.work? id = none := by
      rw [work?, hjob, Option.map_none]
    obtain ⟨-, hnew⟩ := (step_steps hmax hi c).new id _ (work?_of_job hj') hwork
    have hqueued : j'.state = .queued := hnew.state
    rcases hcancelled with h | h
    · rw [hqueued] at h
      exact nomatch h
    · rw [hqueued] at h
      exact nomatch h

def Accepts (settings : ValidationSettings) (texts : ValidationTexts) (db : ValidationDb)
    (c : ValidationCall) : Prop :=
  ∃ db', db.call settings texts c = .ok db'

/-- The payload carries the lease of the job's latest attempt. -/
def CarriesLease (texts : ValidationTexts) (db : ValidationDb) (id : Uuid)
    (payload : List (String × Json)) : Prop :=
  ∃ j a, db.job? id = some j ∧ a ∈ db.attemptsOf id ∧ a.number = j.attemptCount ∧
    (if (leaseOf payload).truthy then texts.str (leaseOf payload) else "") =
      texts.uuidText a.leaseToken

/-- What is promised of the jobs after these calls. -/
structure SafelyLeased (settings : ValidationSettings) (texts : ValidationTexts)
    (runners : List ValidationRunner) (calls : List ValidationCall) : Prop where
  terminal_stays : ∀ more id j, (run settings texts runners calls).job? id = some j →
    j.state.isTerminal = true → (run settings texts runners (calls ++ more)).job? id = some j
  heartbeat_lease : ∀ now id r payload,
    Accepts settings texts (run settings texts runners calls) (.heartbeat now id r payload) →
      CarriesLease texts (run settings texts runners calls) id payload
  complete_lease : ∀ now id r payload,
    Accepts settings texts (run settings texts runners calls) (.complete now id r payload) →
      CarriesLease texts (run settings texts runners calls) id payload
  attempts : ∀ id j, (run settings texts runners calls).job? id = some j →
    ((run settings texts runners calls).attemptsOf id).map ValidationAttempt.number =
        List.range' 1 j.attemptCount ∧
      j.attemptCount ≤ settings.maxAttempts ∧
      ∀ a ∈ (run settings texts runners calls).attemptsOf id, a.number ≠ j.attemptCount →
        a.finishedAt.isSome = true
  /-- The progress of a heartbeat, and that of a later one in the same attempt. -/
  progress : ∀ now id r payload more now' r' payload' j j' n n',
    (run settings texts runners calls).job? id = some j →
    Accepts settings texts (run settings texts runners calls) (.heartbeat now id r payload) →
    (run settings texts runners (calls ++ .heartbeat now id r payload :: more)).job? id = some j' →
    Accepts settings texts (run settings texts runners (calls ++ .heartbeat now id r payload :: more))
      (.heartbeat now' id r' payload') →
    j'.attemptCount = j.attemptCount →
    reportedProgress texts j payload = some n → reportedProgress texts j' payload' = some n' → n ≤ n'
  cancelled_only : ∀ id j, (run settings texts runners calls).job? id = some j → j.state = .cancelled →
    ∃ pre c post j', calls = pre ++ c :: post ∧ (run settings texts runners pre).job? id = some j' ∧
      ReportsCancel texts j' c
  cancel_holds : ∀ now id j more j', (run settings texts runners calls).job? id = some j →
    j.state.isTerminal = false →
    (run settings texts runners (calls ++ .requestCancel now id :: more)).job? id = some j' →
      j'.state ≠ .completed
  queued : ∀ id j, (run settings texts runners calls).job? id = some j → j.state = .queued →
    j.runner = none ∧ j.leaseToken = none ∧ j.leaseExpiresAt = none

theorem carriesLease_of_validate {db : ValidationDb} (hi : DbInv settings db) {id : Uuid}
    {j : ValidationJob} (hj : db.job? id = some j) {r : ValidationRunner}
    {payload : List (String × Json)} (h : validateLease texts j r (leaseOf payload) = none) :
    CarriesLease texts db id payload := by
  have hjob := hi.jobs id _ (work?_of_job hj)
  obtain ⟨a, ha, hnumber, htoken, -⟩ := hjob.leased (hjob.leased_of_lease h)
  obtain ⟨-, hlease, -⟩ := validateLease_none h
  refine ⟨j, a, hj, ha, hnumber, ?_⟩
  rw [← hlease, ← htoken]
  rfl

theorem run_cons (calls more : List ValidationCall) (c : ValidationCall) :
    run settings texts runners (calls ++ c :: more) =
      Run.exec (step settings texts) ((run settings texts runners calls).step settings texts c) more := by
  rw [run, Run.exec_append]
  rfl

theorem standing_of_leased {w : Work} (h : w.1.state.isLeased = true) :
    standing w = toLex (w.1.attemptCount, w.1.progressPercent) := by
  rw [standing, if_pos h]

theorem job?_saveJob {db : ValidationDb} {j : ValidationJob} (j' : ValidationJob)
    (hid : j'.id = j.id) (hj : db.job? j.id = some j) : (db.saveJob j').job? j.id = some j' := by
  rw [← hid] at hj ⊢
  exact Rows.get?_put_self ValidationJob.id hj

theorem heartbeat_leaves {db : ValidationDb} {now : ℕ} {id : Uuid}
    {r : ValidationRunner} {payload : List (String × Json)} {j : ValidationJob} {n : ℤ}
    (hj : db.job? id = some j)
    (haccepts : Accepts settings texts db (.heartbeat now id r payload))
    (hn : reportedProgress texts j payload = some n) :
    ∃ w', (db.step settings texts (.heartbeat now id r payload)).work? id = some w' ∧
      w'.1.state.isLeased = true ∧ w'.1.attemptCount = j.attemptCount ∧
      (w'.1.progressPercent : ℤ) = n := by
  obtain ⟨db', hdb'⟩ := haccepts
  have hcall : db.heartbeat settings texts now id r payload = .ok db' := hdb'
  obtain ⟨x, state, progress, a, hx, hlease, hword, hprogress, hle, -, -, hsaved⟩ := heartbeat_ok hcall
  rw [hj] at hx
  obtain rfl := Option.some.inj hx
  obtain rfl : j.id = id := Rows.get?_key ValidationJob.id hj
  have hstep : db.step settings texts (.heartbeat now j.id r payload) = db' := by
    unfold step
    rw [hdb']
  have hread : db'.job? j.id = some (beatJob settings texts now payload state progress j) := by
    rw [hsaved]
    exact job?_saveJob (beatJob settings texts now payload state progress j) rfl hj
  rw [hstep]
  refine ⟨_, work?_of_job hread, ?_, rfl, ?_⟩
  · exact beatJob_leased settings texts now payload progress j (reported?_isLeased hword)
  · rw [hn] at hprogress
    exact (Option.some.inj hprogress).symm

/-- **Validation jobs are leased safely**, after any sequence of calls. -/
theorem leased_safely (hmax : 1 ≤ settings.maxAttempts) (runners : List ValidationRunner)
    (calls : List ValidationCall) :
    SafelyLeased settings texts runners calls where
  terminal_stays more id j hj hterminal := by
    obtain ⟨w', hw', hkeeps⟩ := run_keeps hmax calls more (work?_of_job hj)
    rw [hkeeps.terminal hterminal] at hw'
    exact (work?_some hw').1
  heartbeat_lease now id r payload haccepts := by
    obtain ⟨db', hdb'⟩ := haccepts
    have hcall : (run settings texts runners calls).heartbeat settings texts now id r payload = .ok db' := hdb'
    obtain ⟨j, _, _, _, hj, hlease, -⟩ := heartbeat_ok hcall
    exact carriesLease_of_validate (run_inv hmax calls) hj hlease
  complete_lease now id r payload haccepts := by
    obtain ⟨db', hdb'⟩ := haccepts
    have hcall : (run settings texts runners calls).complete settings texts now id r payload = .ok db' := hdb'
    obtain ⟨j, _, hj, hlease, -⟩ := complete_ok hcall
    exact carriesLease_of_validate (run_inv hmax calls) hj hlease
  attempts id j hj := by
    have hjob := (run_inv hmax calls).jobs id _ (work?_of_job hj)
    exact ⟨hjob.numbers, hjob.bounded, hjob.finished⟩
  progress now id r payload more now' r' payload' j j' n n' hj hfirst hj' hsecond hcount hn hn' := by
    have hi : DbInv settings (run settings texts runners calls) := run_inv hmax calls
    obtain ⟨w, hw, hleased, hwcount, hwprogress⟩ := heartbeat_leaves hj hfirst hn
    have hi₁ : DbInv settings ((run settings texts runners calls).step settings texts
        (.heartbeat now id r payload)) := step_inv hmax hi _
    obtain ⟨w', hw', hkeeps⟩ := exec_keeps hmax more hi₁ hw
    rw [← run_cons, work?_of_job hj'] at hw'
    obtain rfl := Option.some.inj hw'
    -- the second heartbeat reports at least what is stored
    obtain ⟨db', hdb'⟩ := hsecond
    obtain ⟨x, _, progress, _, hx, hlease, -, hprogress, hle, -⟩ := heartbeat_ok hdb'
    rw [hj'] at hx
    obtain rfl := Option.some.inj hx
    have hjob' := (run_inv hmax _).jobs id _ (work?_of_job hj')
    have hstanding := hkeeps.standing
    rw [standing_of_leased hleased, standing_of_leased (hjob'.leased_of_lease hlease),
      Prod.Lex.le_iff] at hstanding
    rw [hn'] at hprogress
    have hprogress' := Option.some.inj hprogress
    rcases hstanding with hlt | ⟨-, hle'⟩
    · have hlt' : w.1.attemptCount < j'.attemptCount := hlt
      omega
    · have hle'' : w.1.progressPercent ≤ j'.progressPercent := hle'
      omega
  cancelled_only id j hj hstate := by
    have h0 : ¬ ∃ j, ({ runners := runners } : ValidationDb).job? id = some j ∧ IsCancelled j := by
      rintro ⟨j, hj, -⟩
      exact nomatch hj
    obtain ⟨pre, c, post, rfl, hbefore, hafter⟩ :=
      Run.exists_entering (P := fun db : ValidationDb => ∃ j, db.job? id = some j ∧ IsCancelled j) h0
        ⟨j, hj, .inr hstate⟩
    obtain ⟨j', hj', hreports⟩ := step_reportsCancel hmax (run_inv hmax pre) hbefore hafter
    exact ⟨pre, c, post, j', rfl, hj', hreports⟩
  cancel_holds now id j more j' hj hopen hj' := by
    have hi : DbInv settings (run settings texts runners calls) := run_inv hmax calls
    have hstep : (run settings texts runners calls).step settings texts (.requestCancel now id) =
        (run settings texts runners calls).saveJob (cancelRequested now j) := by
      simp only [step, call, requestCancel, hj]
    have hcancelled : IsCancelled (cancelRequested now j) := by
      unfold cancelRequested
      rw [if_neg (by simp [hopen])]
      split
      · exact .inr rfl
      · exact .inl rfl
    have hid : (cancelRequested now j).id = j.id := by
      unfold cancelRequested
      split
      · rfl
      · split
        · rfl
        · rfl
    obtain rfl : j.id = id := Rows.get?_key ValidationJob.id hj
    have hread : ((run settings texts runners calls).step settings texts (.requestCancel now j.id)).job? j.id =
        some (cancelRequested now j) := by
      rw [hstep]
      exact job?_saveJob (cancelRequested now j) hid hj
    have hi₁ : DbInv settings ((run settings texts runners calls).step settings texts
        (.requestCancel now j.id)) := step_inv hmax hi _
    obtain ⟨w', hw', hkeeps⟩ := exec_keeps hmax more hi₁ (work?_of_job hread)
    rw [← run_cons, work?_of_job hj'] at hw'
    obtain rfl := Option.some.inj hw'
    intro hcompleted
    rcases hkeeps.cancelled hcancelled with h | h
    · rw [show j'.state = .cancelling from h] at hcompleted
      exact nomatch hcompleted
    · rw [show j'.state = .cancelled from h] at hcompleted
      exact nomatch hcompleted
  queued id j hj hstate := by
    obtain ⟨hrunner, hlease, hexpires, -⟩ := ((run_inv hmax calls).jobs id _ (work?_of_job hj)).queued hstate
    exact ⟨hrunner, hlease, hexpires⟩

/-- A job that is claimed, makes progress, is to be cancelled and is completed. -/
def cancelledReplay : List ValidationCall :=
  [.createJob 1 { recording := { id := 7 }, profile := { id := 8 } },
   .claim 2 { id := "cpu-1" },
   .heartbeat 3 0 { id := "cpu-1" }
     [("lease_token", .str "ii"), ("state", .str "running"), ("progress_percent", .num (.int 40))],
   .requestCancel 4 0,
   .complete 5 0 { id := "cpu-1" } [("lease_token", .str "ii"), ("outcome", .str "completed")]]

theorem leased_safely_cancelledReplay :
    ((run {} default [{ id := "cpu-1" }] cancelledReplay).job? 0).map (fun j => (j.state, j.progressPercent)) =
        some (.cancelled, 40) ∧
      SafelyLeased {} default [{ id := "cpu-1" }] cancelledReplay :=
  ⟨by decide, leased_safely (by decide) [{ id := "cpu-1" }] cancelledReplay⟩

end ValidationDb

end RoamerX
