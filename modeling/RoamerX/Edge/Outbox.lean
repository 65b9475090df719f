import RoamerX.Protocol.Texts
import Mathlib.Data.PNat.Defs
import Mathlib.Logic.Function.Basic

set_option autoImplicit false

/-! # The outbox of the Edge

The tables `outbox` and `trajectory_sequence` of `LocalStore`. They are on disk and survive a
restart; every method of the store is one transaction. -/

namespace RoamerX

/-- A row of `outbox`: where the message goes is left out, and of the message its payload is kept. -/
structure OutboxRow where
  id : ℕ
  messageType : String
  dedupeKey : Option String
  payload : List (String × Json)

/-- `LocalStore`, as far as messages to the center are concerned. -/
structure LocalStore where
  /-- `max(1, trajectory_outbox_limit)` and `max(1, system_log_outbox_limit)`. -/
  trajectoryOutboxLimit : ℕ+
  systemLogOutboxLimit : ℕ+
  outbox : List OutboxRow := []
  /-- The last id of the `AUTOINCREMENT` key. -/
  lastRowId : ℕ := 0
  /-- `trajectory_sequence`; an execution without a row has `next_seq` 0. -/
  nextSeq : Uuid → ℕ := fun _ => 0

namespace OutboxRow

/-- `message_type = 'trajectory.batch'`. -/
def isTrajectory (row : OutboxRow) : Bool := decide (row.messageType = "trajectory.batch")

end OutboxRow

namespace LocalStore

/-- The rows of one message type, the newest `limit` of them; ids grow along the table. -/
def newest (messageType : String) (limit : ℕ) (rows : List OutboxRow) : List OutboxRow :=
  (rows.filter (fun row => decide (row.messageType = messageType))).reverse.take limit

/-- `DELETE FROM outbox WHERE message_type = ? AND id NOT IN (...)`. -/
def prune (messageType : String) (limit : ℕ) (rows : List OutboxRow) : List OutboxRow :=
  rows.filter (fun row => decide (row.messageType ≠ messageType) ||
    decide (row.id ∈ (newest messageType limit rows).map (·.id)))

/-- `_prune_trajectory_outbox_locked`. -/
def pruneTrajectoryOutbox (s : LocalStore) : LocalStore :=
  { s with outbox := prune "trajectory.batch" s.trajectoryOutboxLimit s.outbox }

/-- `_prune_system_log_outbox_locked`. -/
def pruneSystemLogOutbox (s : LocalStore) : LocalStore :=
  { s with outbox := prune "system.log.batch" s.systemLogOutboxLimit s.outbox }

/-- `INSERT OR IGNORE`, on the unique `dedupe_key`. -/
def insertOutbox (s : LocalStore) (messageType : String) (payload : List (String × Json))
    (dedupeKey : Option String) : LocalStore :=
  if dedupeKey.isSome && s.outbox.any (fun row => decide (row.dedupeKey = dedupeKey)) then s
  else
    { s with
      outbox := s.outbox ++ [⟨s.lastRowId + 1, messageType, dedupeKey, payload⟩]
      lastRowId := s.lastRowId + 1 }

def enqueueOutbox (s : LocalStore) (messageType : String) (payload : List (String × Json))
    (dedupeKey : Option String) : LocalStore :=
  let inserted := s.insertOutbox messageType payload dedupeKey
  if messageType = "trajectory.batch" then inserted.pruneTrajectoryOutbox
  else if messageType = "system.log.batch" then inserted.pruneSystemLogOutbox
  else inserted

/-- `list_pending_outbox`: trajectories last. -/
def listPendingOutbox (s : LocalStore) (limit : ℕ) : List OutboxRow :=
  (s.outbox.filter (fun row => !row.isTrajectory) ++ s.outbox.filter (·.isTrajectory)).take limit

/-- `ack_outbox(row_id=id)`. -/
def ackOutboxRow (s : LocalStore) (id : ℕ) : LocalStore :=
  { s with outbox := s.outbox.filter (fun row => decide (row.id ≠ id)) }

/-- `ack_outbox(dedupe_key=key)`. -/
def ackOutboxKey (s : LocalStore) (key : String) : LocalStore :=
  { s with outbox := s.outbox.filter (fun row => decide (row.dedupeKey ≠ some key)) }

/-- `replay_outbox`: what is handed to the client, and the rows whose hand-over succeeded are
    dropped, except for trajectories, which wait for the center. -/
def replayOutbox (s : LocalStore) (limit : ℕ) (success : ℕ → Bool) : List OutboxRow × LocalStore :=
  let pending := s.listPendingOutbox limit
  (pending, pending.foldl
    (fun s row => if success row.id && !row.isTrajectory then s.ackOutboxRow row.id else s) s)

def nextTrajectorySeq (s : LocalStore) (execution : Uuid) : ℕ × LocalStore :=
  (s.nextSeq execution,
    { s with nextSeq := Function.update s.nextSeq execution (s.nextSeq execution + 1) })

/-- A restart opens the same file, with the limits that are configured now. -/
def reopen (s : LocalStore) (trajectoryOutboxLimit systemLogOutboxLimit : ℕ+) : LocalStore :=
  pruneTrajectoryOutbox
    { s with
      trajectoryOutboxLimit := trajectoryOutboxLimit
      systemLogOutboxLimit := systemLogOutboxLimit }

/-! ## Which rows leave the outbox -/

theorem mem_of_mem_prune {messageType : String} {limit : ℕ} {rows : List OutboxRow}
    {row : OutboxRow} (h : row ∈ prune messageType limit rows) : row ∈ rows :=
  (List.mem_filter.1 h).1

theorem filter_ids_append {l r : List OutboxRow}
    (h : (l ++ r).Pairwise (fun p q => p.id < q.id)) :
    (l ++ r).filter (fun row => decide (row.id ∈ r.map (·.id))) = r := by
  obtain ⟨-, -, hlt⟩ := List.pairwise_append.1 h
  rw [List.filter_append, List.filter_eq_nil_iff.2, List.filter_eq_self.2, List.nil_append]
  · intro row hrow
    exact decide_eq_true (List.mem_map_of_mem hrow)
  · intro row hrow hmem
    obtain ⟨later, hlater, hid⟩ := List.mem_map.1 (of_decide_eq_true hmem)
    exact absurd hid (hlt row hrow later hlater).ne'

/-- A row that is pruned is of the type that is capped, and as many newer ones as the cap allows
    are left. -/
theorem pruned {messageType : String} {limit : ℕ} {rows : List OutboxRow} {row : OutboxRow}
    (h : rows.Pairwise (fun p q => p.id < q.id)) (hrow : row ∈ rows)
    (hgone : row ∉ prune messageType limit rows) :
    row.messageType = messageType ∧
      ((prune messageType limit rows).filter
        (fun r => decide (r.messageType = messageType))).length = limit ∧
      ∀ r ∈ prune messageType limit rows, r.messageType = messageType → row.id < r.id := by
  have hout : row.messageType = messageType ∧
      row.id ∉ (newest messageType limit rows).map (·.id) := by
    have hnot := fun hf => hgone (List.mem_filter.2 ⟨hrow, hf⟩)
    simpa using hnot
  generalize hT : rows.filter (fun r => decide (r.messageType = messageType)) = T
  have hsorted : T.Pairwise (fun p q => p.id < q.id) := hT ▸ h.filter _
  have hmem : row ∈ T := hT ▸ List.mem_filter.2 ⟨hrow, decide_eq_true hout.1⟩
  -- The rows of the type are the ones that go and the newest.
  obtain ⟨gone, left, hlength, hnewest, rfl⟩ : ∃ gone left : List OutboxRow,
      gone.length = T.length - limit ∧ newest messageType limit rows = left.reverse ∧
        gone ++ left = T := by
    refine ⟨T.take (T.length - limit), T.drop (T.length - limit), ?_, ?_, List.take_append_drop _ _⟩
    · rw [List.length_take, Nat.min_eq_left (Nat.sub_le _ _)]
    · rw [newest, hT, List.take_reverse]
  have hids : ∀ r : OutboxRow, r.id ∈ (newest messageType limit rows).map (·.id) ↔
      r.id ∈ left.map (·.id) := by
    intro r
    rw [hnewest, List.map_reverse, List.mem_reverse]
  have hleft : (prune messageType limit rows).filter
      (fun r => decide (r.messageType = messageType)) = left := by
    rw [← filter_ids_append hsorted, ← hT, prune, List.filter_filter, List.filter_filter]
    refine List.filter_congr fun r _ => ?_
    have hr := hids r
    by_cases htype : r.messageType = messageType
    · simp [htype, hr]
    · simp [htype]
  have hgoes : row ∈ gone := by
    rcases List.mem_append.1 hmem with hgone | hstays
    · exact hgone
    · exact absurd ((hids row).2 (List.mem_map_of_mem hstays)) hout.2
  refine ⟨hout.1, ?_, fun r hr htype => ?_⟩
  · have hpos := List.length_pos_of_mem hgoes
    rw [List.length_append] at hlength
    rw [hleft]
    omega
  · have hr' : r ∈ left := hleft ▸ List.mem_filter.2 ⟨hr, decide_eq_true htype⟩
    exact (List.pairwise_append.1 hsorted).2.2 row hgoes r hr'

/-- The rows are in the order of their ids, none of which is above the last one given. -/
structure Ordered (s : LocalStore) : Prop where
  increasing : s.outbox.Pairwise (fun p q => p.id < q.id)
  below : ∀ row ∈ s.outbox, row.id ≤ s.lastRowId

namespace Ordered

variable {s : LocalStore}

theorem of_sublist (h : Ordered s) {s' : LocalStore} (hsub : s'.outbox.Sublist s.outbox)
    (hlast : s'.lastRowId = s.lastRowId) : Ordered s' where
  increasing := h.increasing.sublist hsub
  below := by
    intro row hrow
    rw [hlast]
    exact h.below row (hsub.subset hrow)

theorem insertOutbox (h : Ordered s) (messageType : String) (payload : List (String × Json))
    (dedupeKey : Option String) : Ordered (s.insertOutbox messageType payload dedupeKey) := by
  unfold LocalStore.insertOutbox
  split
  · exact h
  constructor
  · refine List.pairwise_append.2 ⟨h.increasing, List.pairwise_singleton _ _, ?_⟩
    intro row hrow new hnew
    obtain rfl := List.mem_singleton.1 hnew
    exact Nat.lt_succ_of_le (h.below row hrow)
  · intro row hrow
    rcases List.mem_append.1 hrow with hold | hnew
    · exact (h.below row hold).trans (Nat.le_succ _)
    · obtain rfl := List.mem_singleton.1 hnew
      exact le_rfl

theorem enqueueOutbox (h : Ordered s) (messageType : String) (payload : List (String × Json))
    (dedupeKey : Option String) : Ordered (s.enqueueOutbox messageType payload dedupeKey) := by
  have hinsert := h.insertOutbox messageType payload dedupeKey
  unfold LocalStore.enqueueOutbox
  dsimp only
  split
  · exact hinsert.of_sublist List.filter_sublist rfl
  split
  · exact hinsert.of_sublist List.filter_sublist rfl
  · exact hinsert

theorem eq_of_id (h : Ordered s) {row other : OutboxRow} (hrow : row ∈ s.outbox)
    (hother : other ∈ s.outbox) (hid : row.id = other.id) : row = other := by
  have hall := List.Pairwise.forall_of_forall_of_flip
    (R := fun p q : OutboxRow => p.id = q.id → p = q) (fun _ _ _ => rfl)
    (h.increasing.imp fun hlt heq => absurd heq hlt.ne)
    (h.increasing.imp fun hlt heq => absurd heq hlt.ne')
  exact hall hrow hother hid

end Ordered

/-! ## What becomes of the trajectories -/

/-- A trajectory is dropped by the cap: as many newer ones as it allows are left. -/
def OverCap (s' : LocalStore) (row : OutboxRow) : Prop :=
  (s'.outbox.filter (·.isTrajectory)).length = s'.trajectoryOutboxLimit ∧
    ∀ r ∈ s'.outbox, r.isTrajectory = true → row.id < r.id

section Trajectories

variable {s : LocalStore} {row : OutboxRow}

theorem overCap_of_pruned (h : Ordered s) (hrow : row ∈ s.outbox)
    (hgone : row ∉ s.pruneTrajectoryOutbox.outbox) : OverCap s.pruneTrajectoryOutbox row := by
  obtain ⟨-, hlength, hnewer⟩ := pruned h.increasing hrow hgone
  exact ⟨hlength, fun r hr htype => hnewer r hr (of_decide_eq_true htype)⟩

theorem mem_pruneTrajectoryOutbox (h : Ordered s) (hrow : row ∈ s.outbox)
    (hnewest : ∀ r ∈ s.outbox, r.id ≤ row.id) : row ∈ s.pruneTrajectoryOutbox.outbox := by
  by_contra hgone
  obtain ⟨hlength, hnewer⟩ := overCap_of_pruned h hrow hgone
  have hpos : 0 < (s.pruneTrajectoryOutbox.outbox.filter (·.isTrajectory)).length := by
    rw [hlength]
    exact PNat.pos _
  obtain ⟨r, hr⟩ := List.exists_mem_of_length_pos hpos
  obtain ⟨hmem, htype⟩ := List.mem_filter.1 hr
  have hle := hnewest r (mem_of_mem_prune hmem)
  exact absurd (hnewer r hmem htype) (not_lt.2 hle)

theorem mem_prune_of_isTrajectory {messageType : String} {limit : ℕ} {rows : List OutboxRow}
    (hne : messageType ≠ "trajectory.batch") (hrow : row ∈ rows) (htype : row.isTrajectory = true) :
    row ∈ prune messageType limit rows := by
  have heq := of_decide_eq_true htype
  refine List.mem_filter.2 ⟨hrow, ?_⟩
  rw [heq]
  simp [Ne.symm hne]

theorem mem_of_mem_listPendingOutbox {limit : ℕ} (h : row ∈ s.listPendingOutbox limit) :
    row ∈ s.outbox := by
  rcases List.mem_append.1 (List.mem_of_mem_take h) with hother | htrajectory
  · exact (List.mem_filter.1 hother).1
  · exact (List.mem_filter.1 htrajectory).1

theorem mem_insertOutbox {messageType : String} {payload : List (String × Json)}
    {dedupeKey : Option String} (h : row ∈ (s.insertOutbox messageType payload dedupeKey).outbox) :
    row ∈ s.outbox ∨ row = ⟨s.lastRowId + 1, messageType, dedupeKey, payload⟩ := by
  unfold insertOutbox at h
  split at h
  · exact Or.inl h
  · simpa using h

theorem mem_enqueueOutbox {messageType : String} {payload : List (String × Json)}
    {dedupeKey : Option String} (h : row ∈ (s.enqueueOutbox messageType payload dedupeKey).outbox) :
    row ∈ s.outbox ∨ row = ⟨s.lastRowId + 1, messageType, dedupeKey, payload⟩ := by
  unfold enqueueOutbox at h
  dsimp only at h
  split at h
  · exact mem_insertOutbox (mem_of_mem_prune h)
  split at h
  · exact mem_insertOutbox (mem_of_mem_prune h)
  · exact mem_insertOutbox h

theorem mem_insertOutbox_of_mem {messageType : String} {payload : List (String × Json)}
    {dedupeKey : Option String} (h : row ∈ s.outbox) :
    row ∈ (s.insertOutbox messageType payload dedupeKey).outbox := by
  unfold insertOutbox
  split
  · exact h
  · exact List.mem_append_left _ h

theorem mem_enqueueOutbox_self (h : Ordered s) (payload : List (String × Json)) {key : String}
    (hfresh : ∀ r ∈ s.outbox, r.dedupeKey ≠ some key) :
    ⟨s.lastRowId + 1, "trajectory.batch", some key, payload⟩ ∈
      (s.enqueueOutbox "trajectory.batch" payload (some key)).outbox := by
  have hinserted : (s.insertOutbox "trajectory.batch" payload (some key)).outbox =
      s.outbox ++ [⟨s.lastRowId + 1, "trajectory.batch", some key, payload⟩] := by
    unfold insertOutbox
    rw [if_neg]
    simpa using hfresh
  refine mem_pruneTrajectoryOutbox (h.insertOutbox _ _ _) (by simp [hinserted]) ?_
  intro r hr
  rw [hinserted] at hr
  rcases List.mem_append.1 hr with hold | hnew
  · exact (h.below r hold).trans (Nat.le_succ _)
  · exact (congrArg OutboxRow.id (List.mem_singleton.1 hnew)).le

theorem overCap_of_enqueueOutbox (h : Ordered s) {payload : List (String × Json)}
    {dedupeKey : Option String} (hrow : row ∈ s.outbox)
    (hgone : row ∉ (s.enqueueOutbox "trajectory.batch" payload dedupeKey).outbox) :
    OverCap (s.enqueueOutbox "trajectory.batch" payload dedupeKey) row :=
  overCap_of_pruned (h.insertOutbox _ _ _) (mem_insertOutbox_of_mem hrow) hgone

theorem mem_enqueueOutbox_of_isTrajectory {messageType : String} {payload : List (String × Json)}
    {dedupeKey : Option String} (hne : messageType ≠ "trajectory.batch") (hrow : row ∈ s.outbox)
    (htype : row.isTrajectory = true) :
    row ∈ (s.enqueueOutbox messageType payload dedupeKey).outbox := by
  have hinserted : row ∈ (s.insertOutbox messageType payload dedupeKey).outbox :=
    mem_insertOutbox_of_mem hrow
  unfold enqueueOutbox
  dsimp only
  rw [if_neg hne]
  split
  · next hlog => exact mem_prune_of_isTrajectory (by decide) hinserted htype
  · exact hinserted

/-- What a replay leaves: all of the trajectories, and nothing new. -/
structure Replayed (s t : LocalStore) : Prop where
  sublist : t.outbox.Sublist s.outbox
  lastRowId : t.lastRowId = s.lastRowId
  nextSeq : t.nextSeq = s.nextSeq
  trajectories : ∀ row ∈ s.outbox, row.isTrajectory = true → row ∈ t.outbox

theorem replayed_ackOutboxRow (h : Ordered s) {t : LocalStore} (ht : Replayed s t)
    {sent : OutboxRow} (hsent : sent ∈ s.outbox) (htype : sent.isTrajectory = false) :
    Replayed s (t.ackOutboxRow sent.id) := by
  refine ⟨List.filter_sublist.trans ht.sublist, ht.lastRowId, ht.nextSeq, fun row hrow hrowtype => ?_⟩
  refine List.mem_filter.2 ⟨ht.trajectories row hrow hrowtype, decide_eq_true fun hid => ?_⟩
  rw [h.eq_of_id hrow hsent hid, htype] at hrowtype
  exact Bool.noConfusion hrowtype

theorem replayed_replayOutbox (h : Ordered s) (limit : ℕ) (success : ℕ → Bool) :
    Replayed s (s.replayOutbox limit success).2 := by
  have hfold : ∀ (pending : List OutboxRow) (t : LocalStore), (∀ row ∈ pending, row ∈ s.outbox) →
      Replayed s t → Replayed s (pending.foldl (fun t row =>
        if success row.id && !row.isTrajectory then t.ackOutboxRow row.id else t) t) := by
    intro pending
    induction pending with
    | nil => exact fun _ _ ht => ht
    | cons sent pending ih =>
      intro t hpending ht
      refine ih _ (fun row hrow => hpending row (List.mem_cons_of_mem _ hrow)) ?_
      dsimp only
      split
      · next hgoes =>
        have htype : sent.isTrajectory = false := by simpa using (Bool.and_eq_true_iff.1 hgoes).2
        exact replayed_ackOutboxRow h ht (hpending sent List.mem_cons_self) htype
      · exact ht
  exact hfold _ s (fun row hrow => mem_of_mem_listPendingOutbox hrow)
    ⟨List.Sublist.refl _, rfl, rfl, fun _ hrow _ => hrow⟩

end Trajectories

end LocalStore

end RoamerX
