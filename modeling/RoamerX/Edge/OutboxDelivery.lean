import RoamerX.Edge.MqttClient

set_option autoImplicit false

/-! # What becomes of a message

A message that is neither a trajectory nor a log is stored at most once for one publish, in every run. It is handed
over or queued, unless the process ends inside the publish or a batch takes its key. Messages of one topic are handed
over in the order of their publishes as long as none overtakes an older one that is still queued. -/

namespace RoamerX

namespace MqttClient

/-- A message that the outbox is to keep. -/
structure Tracked (message : Message) : Prop where
  qos : message.qos = 1
  trajectory : message.messageType ≠ "trajectory.batch"
  log : message.messageType ≠ "system.log.batch"

variable {s : Client} {message : Message} {row : Row} {n : ℕ}

/-! ## Rows -/

/-- The row tells of the publish that stored it. -/
structure Known (published : List Message) (row : Row) : Prop where
  message : ∀ n, row.publish = some n → published[n]? = some row.message
  number : Tracked row.message → ∃ n, row.publish = some n

theorem getElem?_append_of_some {published : List Message} (h : published[n]? = some message) (more : List Message) :
    (published ++ more)[n]? = some message := by
  rw [List.getElem?_append_left (List.getElem?_eq_some_iff.mp h).1]
  exact h

theorem Known.append {published : List Message} (h : Known published row) (more : List Message) :
    Known (published ++ more) row :=
  ⟨fun n hn => getElem?_append_of_some (h.message n hn) more, h.number⟩

structure Sound (s : Client) : Prop where
  rows : ∀ row ∈ s.outbox, Known s.published row
  replays : ∀ thread, ∀ row ∈ s.replays thread, Known s.published row
  increasing : s.outbox.Pairwise fun row other => row.id < other.id
  below : ∀ row ∈ s.outbox, row.id ≤ s.lastRowId
  replaysBelow : ∀ thread, ∀ row ∈ s.replays thread, row.id ≤ s.lastRowId
  /-- Of the rows of a replay and of the outbox, those of one id are one row. -/
  same : ∀ thread, ∀ row ∈ s.replays thread, ∀ other ∈ s.outbox, other.id = row.id → other = row
  storedRows : (s.outbox.filterMap Row.publish).Sublist s.stored
  storedOnce : s.stored.Nodup
  storedBelow : ∀ n ∈ s.stored, n < s.published.length
  handedBelow : ∀ n ∈ s.handed, n < s.published.length

namespace Sound

theorem initial (trajectoryOutboxLimit systemLogOutboxLimit : ℕ+) :
    Sound (initial trajectoryOutboxLimit systemLogOutboxLimit) := by
  constructor <;> simp [MqttClient.initial]

theorem filter (h : Sound s) (keep : Row → Bool) : Sound { s with outbox := s.outbox.filter keep } where
  rows row hrow := h.rows row (List.mem_of_mem_filter hrow)
  replays := h.replays
  increasing := h.increasing.filter keep
  below row hrow := h.below row (List.mem_of_mem_filter hrow)
  replaysBelow := h.replaysBelow
  same thread row hrow other hother := h.same thread row hrow other (List.mem_of_mem_filter hother)
  storedRows := (List.filter_sublist.filterMap _).trans h.storedRows
  storedOnce := h.storedOnce
  storedBelow := h.storedBelow
  handedBelow := h.handedBelow

theorem publishing (h : Sound s) (message : Message) : Sound { s with published := s.published ++ [message] } where
  rows row hrow := (h.rows row hrow).append _
  replays thread row hrow := (h.replays thread row hrow).append _
  increasing := h.increasing
  below := h.below
  replaysBelow := h.replaysBelow
  same := h.same
  storedRows := h.storedRows
  storedOnce := h.storedOnce
  storedBelow n hn := by
    rw [List.length_append]
    exact Nat.lt_add_right _ (h.storedBelow n hn)
  handedBelow n hn := by
    rw [List.length_append]
    exact Nat.lt_add_right _ (h.handedBelow n hn)

theorem handOver (h : Sound s) {publish : Option ℕ} (hpublish : ∀ n, publish = some n → n < s.published.length) :
    Sound (handOver s publish) :=
  { h with
    handedBelow := by
      intro n hn
      rcases List.mem_append.mp hn with hn | hn
      · exact h.handedBelow n hn
      · exact hpublish n (Option.mem_toList.mp hn) }

theorem setReplay (h : Sound s) (thread : Thread) {rows : List Row}
    (hrows : ∀ row ∈ rows, row ∈ s.outbox ∨ row ∈ s.replays thread) :
    Sound { s with replays := Function.update s.replays thread rows } := by
  have hupdate : ∀ other, ∀ row ∈ Function.update s.replays thread rows other, row ∈ s.outbox ∨
      row ∈ s.replays other := by
    intro other row hrow
    by_cases hother : other = thread
    · subst hother
      rw [Function.update_self] at hrow
      exact hrows row hrow
    · rw [Function.update_of_ne hother] at hrow
      exact Or.inr hrow
  refine { h with replays := ?_, replaysBelow := ?_, same := ?_ }
  · intro other row hrow
    exact (hupdate other row hrow).elim (h.rows row) (h.replays other row)
  · intro other row hrow
    exact (hupdate other row hrow).elim (h.below row) (h.replaysBelow other row)
  · intro other row hrow queued hqueued hid
    rcases hupdate other row hrow with hrow | hrow
    · have hall := List.Pairwise.forall_of_forall_of_flip
        (R := fun p q : Row => p.id = q.id → p = q) (fun _ _ _ => rfl)
        (h.increasing.imp fun hlt heq => absurd heq hlt.ne) (h.increasing.imp fun hlt heq => absurd heq hlt.ne')
      exact hall hqueued hrow hid
    · exact h.same other row hrow queued hqueued hid

theorem restarted (h : Sound s) : Sound (restarted s) :=
  { h with
    replays := fun _ _ hrow => absurd hrow List.not_mem_nil
    replaysBelow := fun _ _ hrow => absurd hrow List.not_mem_nil
    same := fun _ _ hrow => absurd hrow List.not_mem_nil }

theorem insertOutbox (h : Sound s) {dedupeKey : Option String} {publish : Option ℕ}
    (hknown : Known s.published ⟨s.lastRowId + 1, message, dedupeKey, publish⟩)
    (hfresh : ∀ n, publish = some n → n ∉ s.stored) :
    Sound (insertOutbox s message dedupeKey publish) := by
  unfold MqttClient.insertOutbox
  split
  · exact h
  constructor
  · intro row hrow
    rcases List.mem_append.mp hrow with hrow | hrow
    · exact h.rows row hrow
    · rw [List.mem_singleton.mp hrow]
      exact hknown
  · exact h.replays
  · refine List.pairwise_append.mpr ⟨h.increasing, List.pairwise_singleton _ _, fun row hrow new hnew => ?_⟩
    rw [List.mem_singleton.mp hnew]
    exact Nat.lt_succ_of_le (h.below row hrow)
  · intro row hrow
    rcases List.mem_append.mp hrow with hrow | hrow
    · exact (h.below row hrow).trans (Nat.le_succ _)
    · rw [List.mem_singleton.mp hrow]
  · intro thread row hrow
    exact (h.replaysBelow thread row hrow).trans (Nat.le_succ _)
  · intro thread row hrow other hother hid
    rcases List.mem_append.mp hother with hother | hother
    · exact h.same thread row hrow other hother hid
    · rw [List.mem_singleton.mp hother] at hid
      have hle := h.replaysBelow thread row hrow
      rw [← hid] at hle
      exact absurd hle (Nat.not_succ_le_self _)
  · rw [List.filterMap_append]
    refine h.storedRows.append ?_
    cases publish <;> simp
  · refine List.nodup_append.mpr ⟨h.storedOnce, ?_, ?_⟩
    · cases publish <;> simp
    · rintro n hn n' hn' rfl
      exact hfresh n (Option.mem_toList.mp hn') hn
  · intro n hn
    rcases List.mem_append.mp hn with hn | hn
    · exact h.storedBelow n hn
    · exact (List.getElem?_eq_some_iff.mp (hknown.message n (Option.mem_toList.mp hn))).1
  · exact h.handedBelow

theorem enqueueOutbox (h : Sound s) {dedupeKey : Option String} {publish : Option ℕ}
    (hknown : Known s.published ⟨s.lastRowId + 1, message, dedupeKey, publish⟩)
    (hfresh : ∀ n, publish = some n → n ∉ s.stored) :
    Sound (enqueueOutbox s message dedupeKey publish) := by
  have hinserted := h.insertOutbox hknown hfresh
  unfold MqttClient.enqueueOutbox
  dsimp only
  split
  · exact hinserted.filter _
  split
  · exact hinserted.filter _
  · exact hinserted

end Sound

/-! ## What holds in every run -/

theorem known_publish (message : Message) (published : List Message) (id : ℕ) (dedupeKey : Option String) :
    Known (published ++ [message]) ⟨id, message, dedupeKey, some published.length⟩ where
  message n hn := by
    cases hn
    exact List.getElem?_concat_length
  number _ := ⟨_, rfl⟩

theorem known_batch (published : List Message) (id : ℕ) (topic batchId : String) :
    Known published ⟨id, ⟨topic, "trajectory.batch", 1, false, some batchId⟩, some batchId, none⟩ where
  message _ hn := nomatch hn
  number htracked := absurd rfl htracked.trajectory

theorem Sound.publish (h : Sound s) (message : Message) (wait : Bool) (outcome : Outcome) :
    Sound (publish { s with published := s.published ++ [message] } message wait outcome s.published.length) := by
  have hpublishing := h.publishing message
  have hfresh : ∀ n, some s.published.length = some n → n ∉ s.stored := by
    rintro n hn hmem
    cases hn
    exact absurd (h.storedBelow _ hmem) (Nat.lt_irrefl _)
  have hnumber : ∀ n, some s.published.length = some n → n < (s.published ++ [message]).length := by
    rintro n hn
    cases hn
    rw [List.length_append]
    exact Nat.lt_succ_self _
  have hqueued : ∀ dedupeKey, Sound (MqttClient.enqueueOutbox { s with published := s.published ++ [message] } message
      dedupeKey (some s.published.length)) :=
    fun dedupeKey => hpublishing.enqueueOutbox (known_publish _ _ _ _) hfresh
  have hhanded := hpublishing.handOver hnumber
  unfold MqttClient.publish
  split
  · exact hpublishing.restarted
  split
  · split
    · exact hpublishing
    · exact hqueued _
  split
  · dsimp only
    split
    · exact hhanded
    · exact hhanded.enqueueOutbox (known_publish _ _ _ _) hfresh
  · exact hqueued _

theorem mem_listPendingOutbox {limit : ℕ} (h : row ∈ listPendingOutbox s limit) : row ∈ s.outbox := by
  rcases List.mem_append.mp (List.mem_of_mem_take h) with h | h
  · exact List.mem_of_mem_filter h
  · exact List.mem_of_mem_filter h

theorem Known.lt {published : List Message} (h : Known published row) : ∀ n, row.publish = some n → n < published.length :=
  fun n hn => (List.getElem?_eq_some_iff.mp (h.message n hn)).1

theorem Sound.step (h : Sound s) (event : Event) : Sound (step s event) := by
  cases event with
  | connect => exact { h with }
  | disconnect => exact { h with }
  | restart trajectoryOutboxLimit systemLogOutboxLimit =>
    have hpruned := h.restarted.filter fun row => decide (row.message.messageType ≠ "trajectory.batch") ||
      decide (row.id ∈ (newest "trajectory.batch" trajectoryOutboxLimit s.outbox).map Row.id)
    exact { hpruned with }
  | publish message wait outcome => exact h.publish message wait outcome
  | storeBatch topic batchId =>
    exact h.enqueueOutbox (known_batch _ _ _ _) fun _ hn => nomatch hn
  | ackBatch batchId => exact h.filter _
  | startReplay thread limit =>
    simp only [MqttClient.step]
    split
    · exact h
    · exact h.setReplay thread fun row hrow => Or.inl (mem_listPendingOutbox hrow)
  | replayNext thread accepted =>
    simp only [MqttClient.step]
    split
    · exact h
    next row rows hrows =>
    have hrow : row ∈ s.replays thread := hrows ▸ List.mem_cons_self
    have hrest := h.setReplay thread fun other hother => Or.inr (hrows ▸ List.mem_cons_of_mem row hother)
    split
    · have hhanded := hrest.handOver (h.replays thread row hrow).lt
      split
      · exact hhanded
      · exact hhanded.filter _
    · exact hrest
  | replayDied thread =>
    simp only [MqttClient.step]
    split
    · exact h
    next row rows hrows =>
    have hrow : row ∈ s.replays thread := hrows ▸ List.mem_cons_self
    exact (h.handOver (h.replays thread row hrow).lt).restarted

/-! ## What is kept, and in which order -/

/-- The message was handed over or is queued. -/
def Kept (s : Client) (n : ℕ) : Prop := n ∈ s.handed ∨ ∃ row ∈ s.outbox, row.publish = some n

/-- Outbox delivery keeps the order and loses nothing. -/
structure Delivered (s : Client) : Prop where
  kept : ∀ n message, s.published[n]? = some message → Tracked message → Kept s n
  once : s.stored.Nodup ∧ (s.outbox.filterMap Row.publish).Nodup
  ordered : s.handed.Pairwise fun i j => ∀ message message', s.published[i]? = some message →
    s.published[j]? = some message' → Tracked message → Tracked message' → message.topic = message'.topic → i ≤ j

/-- The queued messages of the topic of a row. -/
def Rivals (s : Client) (topic : String) (row : Row) : Prop :=
  row ∈ s.outbox ∧ Tracked row.message ∧ row.message.topic = topic

/-- What a step must not do: lose a message, or let one overtake an older one of its topic. -/
def Careful (s : Client) : Event → Prop
  | .publish message _ outcome => Tracked message →
    -- the process does not end inside the publish
    outcome ≠ .died ∧
    -- no queued row has the key under which the message is stored
    (s.connected = false → ∀ key, message.batchId = some key → ∀ row ∈ s.outbox, row.dedupeKey ≠ some key) ∧
    -- the message is not handed over while one of its topic is queued
    (s.connected = true → outcome ≠ .refused → ∀ row, ¬ Rivals s message.topic row)
  | .ackBatch key => ∀ row ∈ s.outbox, Tracked row.message → row.dedupeKey ≠ some key
  | .replayNext thread accepted => accepted = true → Foremost s thread
  | .replayDied thread => Foremost s thread
  | _ => True
where
  /-- The next row of the replay is still queued, and none of its topic is older. -/
  Foremost (s : Client) (thread : Thread) : Prop := ∀ row rows, s.replays thread = row :: rows → Tracked row.message →
    row ∈ s.outbox ∧ ∀ other, Rivals s row.message.topic other →
      ∀ n m, row.publish = some n → other.publish = some m → n ≤ m

/-! ## Nothing is lost -/

section Order

variable {published : List Message} {handed : List ℕ} {outbox : List Row}

/-- Every tracked message was handed over or is queued. -/
def KeptAll (published : List Message) (handed : List ℕ) (outbox : List Row) : Prop :=
  ∀ n message, published[n]? = some message → Tracked message → n ∈ handed ∨ ∃ row ∈ outbox, row.publish = some n

namespace KeptAll

theorem mono (h : KeptAll published handed outbox) {handed' : List ℕ} {outbox' : List Row}
    (hhanded : handed ⊆ handed')
    (hrows : ∀ row ∈ outbox, ∀ n, row.publish = some n → row ∈ outbox' ∨ n ∈ handed' ∨ ¬ Tracked row.message)
    (hknown : ∀ row ∈ outbox, Known published row) : KeptAll published handed' outbox' := by
  intro n message hn htracked
  rcases h n message hn htracked with hmem | ⟨row, hrow, hpublish⟩
  · exact Or.inl (hhanded hmem)
  · obtain rfl := Option.some.inj (((hknown row hrow).message n hpublish).symm.trans hn)
    rcases hrows row hrow n hpublish with hrow | hmem | hnot
    · exact Or.inr ⟨row, hrow, hpublish⟩
    · exact Or.inl hmem
    · exact absurd htracked hnot

theorem publishing (h : KeptAll published handed outbox) {message : Message}
    (hmessage : Tracked message → published.length ∈ handed ∨ ∃ row ∈ outbox, row.publish = some published.length) :
    KeptAll (published ++ [message]) handed outbox := by
  intro n message' hn htracked
  rcases Nat.lt_or_ge n published.length with hlt | hge
  · rw [List.getElem?_append_left hlt] at hn
    exact h n message' hn htracked
  · have hbound := (List.getElem?_eq_some_iff.mp hn).1
    rw [List.length_append, List.length_singleton] at hbound
    obtain rfl : n = published.length := by omega
    rw [List.getElem?_concat_length, Option.some.injEq] at hn
    exact hmessage (hn ▸ htracked)

end KeptAll

/-! ## Order -/

/-- Messages of one topic were handed over in their order, and the queued ones are no older. -/
structure InOrder (published : List Message) (handed : List ℕ) (outbox : List Row) : Prop where
  ordered : handed.Pairwise fun i j => ∀ message message', published[i]? = some message →
    published[j]? = some message' → Tracked message → Tracked message' → message.topic = message'.topic → i ≤ j
  behind : ∀ row ∈ outbox, Tracked row.message → ∀ n, row.publish = some n → ∀ j ∈ handed, ∀ message,
    published[j]? = some message → Tracked message → message.topic = row.message.topic → j ≤ n

namespace InOrder

theorem subset (h : InOrder published handed outbox) {outbox' : List Row} (hsub : outbox' ⊆ outbox) :
    InOrder published handed outbox' where
  ordered := h.ordered
  behind row hrow := h.behind row (hsub hrow)

theorem queue (h : InOrder published handed outbox) {new : Row}
    (hnew : Tracked new.message → ∀ n, new.publish = some n → ∀ j ∈ handed, j ≤ n) :
    InOrder published handed (outbox ++ [new]) where
  ordered := h.ordered
  behind row hrow htracked n hn j hj message hmessage hmtracked htopic := by
    rcases List.mem_append.mp hrow with hrow | hrow
    · exact h.behind row hrow htracked n hn j hj message hmessage hmtracked htopic
    · rw [List.mem_singleton] at hrow
      subst hrow
      exact hnew htracked n hn j hj

theorem hand (h : InOrder published handed outbox) {n : ℕ} {message : Message} (hn : published[n]? = some message)
    (hlater : Tracked message → ∀ j ∈ handed, ∀ message', published[j]? = some message' → Tracked message' →
      message'.topic = message.topic → j ≤ n)
    (hfirst : Tracked message → ∀ row ∈ outbox, Tracked row.message → row.message.topic = message.topic →
      ∀ m, row.publish = some m → n ≤ m) :
    InOrder published (handed ++ [n]) outbox where
  ordered := by
    refine List.pairwise_append.mpr ⟨h.ordered, List.pairwise_singleton _ _, fun j hj i hi => ?_⟩
    rw [List.mem_singleton.mp hi]
    intro message' message'' hj' hn' htracked' htracked'' htopic
    obtain rfl := Option.some.inj (hn.symm.trans hn')
    exact hlater htracked'' j hj message' hj' htracked' htopic
  behind row hrow htracked m hm j hj message' hj' htracked' htopic := by
    rcases List.mem_append.mp hj with hj | hj
    · exact h.behind row hrow htracked m hm j hj message' hj' htracked' htopic
    · rw [List.mem_singleton] at hj
      subst hj
      obtain rfl := Option.some.inj (hn.symm.trans hj')
      exact hfirst htracked' row hrow htracked htopic.symm m hm

theorem publishing (h : InOrder published handed outbox) (hbelow : ∀ n ∈ handed, n < published.length)
    (message : Message) : InOrder (published ++ [message]) handed outbox where
  ordered := by
    refine List.Pairwise.imp_of_mem (fun hi hj himp message' message'' hi' hj' => ?_) h.ordered
    rw [List.getElem?_append_left (hbelow _ hi)] at hi'
    rw [List.getElem?_append_left (hbelow _ hj)] at hj'
    exact himp message' message'' hi' hj'
  behind row hrow htracked n hn j hj message' hj' := by
    rw [List.getElem?_append_left (hbelow j hj)] at hj'
    exact h.behind row hrow htracked n hn j hj message' hj'

end InOrder

end Order

/-! ## One step -/

structure Inv (s : Client) : Prop where
  sound : Sound s
  kept : KeptAll s.published s.handed s.outbox
  inOrder : InOrder s.published s.handed s.outbox

theorem outbox_enqueueOutbox (s : Client) (message : Message) (dedupeKey : Option String) (publish : Option ℕ) :
    (enqueueOutbox s message dedupeKey publish).outbox ⊆
      s.outbox ++ [⟨s.lastRowId + 1, message, dedupeKey, publish⟩] ∧
    (∀ row ∈ s.outbox, Tracked row.message → row ∈ (enqueueOutbox s message dedupeKey publish).outbox) ∧
    (Tracked message → (∀ key, dedupeKey = some key → ∀ row ∈ s.outbox, row.dedupeKey ≠ some key) →
      (⟨s.lastRowId + 1, message, dedupeKey, publish⟩ : Row) ∈
        (enqueueOutbox s message dedupeKey publish).outbox) := by
  have hinsert : (insertOutbox s message dedupeKey publish).outbox ⊆
      s.outbox ++ [⟨s.lastRowId + 1, message, dedupeKey, publish⟩] ∧
      s.outbox ⊆ (insertOutbox s message dedupeKey publish).outbox := by
    unfold insertOutbox
    split
    · exact ⟨List.subset_append_left _ _, List.Subset.refl _⟩
    · exact ⟨List.Subset.refl _, List.subset_append_left _ _⟩
  have hprune : ∀ messageType limit row, messageType ≠ row.message.messageType →
      row ∈ (insertOutbox s message dedupeKey publish).outbox →
      row ∈ prune messageType limit (insertOutbox s message dedupeKey publish).outbox := by
    intro messageType limit row htype hrow
    exact List.mem_filter.mpr ⟨hrow, by simp [htype.symm]⟩
  unfold enqueueOutbox
  dsimp only
  refine ⟨?_, fun row hrow htracked => ?_, fun htracked hfresh => ?_⟩
  · split
    · exact List.Subset.trans (List.filter_subset_self _) hinsert.1
    split
    · exact List.Subset.trans (List.filter_subset_self _) hinsert.1
    · exact hinsert.1
  · split
    · exact hprune _ _ row htracked.trajectory.symm (hinsert.2 hrow)
    split
    · exact hprune _ _ row htracked.log.symm (hinsert.2 hrow)
    · exact hinsert.2 hrow
  · rw [if_neg htracked.trajectory, if_neg htracked.log, insertOutbox, if_neg]
    · exact List.mem_append_right _ (List.mem_singleton_self _)
    · simp only [Bool.and_eq_true, List.any_eq_true, decide_eq_true_eq, not_and, not_exists]
      intro hsome row hrow hkey
      obtain ⟨key, rfl⟩ := Option.isSome_iff_exists.mp hsome
      exact hfresh key rfl row hrow hkey

theorem published_enqueueOutbox (s : Client) (message : Message) (dedupeKey : Option String) (publish : Option ℕ) :
    (enqueueOutbox s message dedupeKey publish).published = s.published ∧
      (enqueueOutbox s message dedupeKey publish).handed = s.handed := by
  have hinsert : (insertOutbox s message dedupeKey publish).published = s.published ∧
      (insertOutbox s message dedupeKey publish).handed = s.handed := by
    unfold insertOutbox
    split
    · exact ⟨rfl, rfl⟩
    · exact ⟨rfl, rfl⟩
  unfold enqueueOutbox
  dsimp only
  split
  · exact hinsert
  split
  · exact hinsert
  · exact hinsert

theorem inOrder_enqueueOutbox {dedupeKey : Option String} {publish : Option ℕ}
    (h : InOrder s.published s.handed s.outbox)
    (hlast : Tracked message → ∀ n, publish = some n → ∀ j ∈ s.handed, j ≤ n) :
    InOrder (enqueueOutbox s message dedupeKey publish).published (enqueueOutbox s message dedupeKey publish).handed
      (enqueueOutbox s message dedupeKey publish).outbox := by
  rw [(published_enqueueOutbox s message dedupeKey publish).1, (published_enqueueOutbox s message dedupeKey publish).2]
  exact (h.queue hlast).subset (outbox_enqueueOutbox s message dedupeKey publish).1

theorem keptAll_enqueueOutbox {dedupeKey : Option String} {publish : Option ℕ}
    (h : KeptAll s.published s.handed s.outbox) (hknown : ∀ row ∈ s.outbox, Known s.published row) :
    KeptAll s.published s.handed (enqueueOutbox s message dedupeKey publish).outbox := by
  refine h.mono (List.Subset.refl _) (fun row hrow n _ => ?_) hknown
  by_cases htracked : Tracked row.message
  · exact Or.inl ((outbox_enqueueOutbox s message dedupeKey publish).2.1 row hrow htracked)
  · exact Or.inr (Or.inr htracked)

theorem Inv.stored (h : Inv s) (message : Message) {dedupeKey : Option String}
    (hsound : Sound (enqueueOutbox { s with published := s.published ++ [message] } message dedupeKey
      (some s.published.length)))
    (hfresh : Tracked message → ∀ key, dedupeKey = some key → ∀ row ∈ s.outbox, row.dedupeKey ≠ some key) :
    Inv (enqueueOutbox { s with published := s.published ++ [message] } message dedupeKey
      (some s.published.length)) := by
  have hstep := outbox_enqueueOutbox { s with published := s.published ++ [message] } message dedupeKey
    (some s.published.length)
  have hfields := published_enqueueOutbox { s with published := s.published ++ [message] } message dedupeKey
    (some s.published.length)
  refine ⟨hsound, ?_, inOrder_enqueueOutbox (h.inOrder.publishing h.sound.handedBelow message) ?_⟩
  · rw [hfields.1, hfields.2]
    have hrows : KeptAll s.published s.handed (enqueueOutbox { s with published := s.published ++ [message] } message
        dedupeKey (some s.published.length)).outbox := by
      refine h.kept.mono (List.Subset.refl _) (fun row hrow n _ => ?_) h.sound.rows
      by_cases htracked : Tracked row.message
      · exact Or.inl (hstep.2.1 row hrow htracked)
      · exact Or.inr (Or.inr htracked)
    exact hrows.publishing fun htracked => Or.inr ⟨_, hstep.2.2 htracked (hfresh htracked), rfl⟩
  · rintro - n hn j hj
    cases hn
    exact (h.sound.handedBelow j hj).le

theorem Inv.handed (h : Inv s) (message : Message)
    (hsound : Sound (handOver { s with published := s.published ++ [message] } (some s.published.length)))
    (hrivals : Tracked message → ∀ row, ¬ Rivals s message.topic row) :
    Inv (handOver { s with published := s.published ++ [message] } (some s.published.length)) := by
  refine ⟨hsound, ?_, (h.inOrder.publishing h.sound.handedBelow message).hand List.getElem?_concat_length ?_ ?_⟩
  · have hhanded : KeptAll s.published (s.handed ++ [s.published.length]) s.outbox :=
      h.kept.mono (List.subset_append_left _ _) (fun row hrow n _ => Or.inl hrow) h.sound.rows
    exact hhanded.publishing fun _ => Or.inl (List.mem_append_right _ (List.mem_singleton_self _))
  · intro _ j hj _ _ _ _
    exact (h.sound.handedBelow j hj).le
  · intro htracked row hrow hrowTracked htopic
    exact absurd ⟨hrow, hrowTracked, htopic⟩ (hrivals htracked row)

/-! ## Publishing -/

theorem publish_offline {wait : Bool} {outcome : Outcome} (hconnected : s.connected = false)
    (houtcome : outcome ≠ .died) : publish s message wait outcome n =
      if message.qos = 0 then s else enqueueOutbox s message message.batchId (some n) := by
  unfold publish
  cases outcome with
  | died => exact absurd rfl houtcome
  | refused => simp [hconnected]
  | accepted confirmed => simp [hconnected]

theorem publish_refused {wait : Bool} (hconnected : s.connected = true) :
    publish s message wait .refused n = enqueueOutbox s message none (some n) := by
  simp [publish, hconnected]

theorem publish_accepted {wait confirmed : Bool} (hconnected : s.connected = true) :
    publish s message wait (.accepted confirmed) n =
      if !wait || message.qos < 1 || confirmed then handOver s (some n)
      else enqueueOutbox (handOver s (some n)) message none (some n) := by
  simp [publish, hconnected]

theorem Inv.publish (h : Inv s) (message : Message) (wait : Bool) (outcome : Outcome)
    (hcareful : Careful s (.publish message wait outcome)) :
    Inv (publish { s with published := s.published ++ [message] } message wait outcome s.published.length) := by
  have hsound := h.sound.publish message wait outcome
  -- a message of no concern need not be kept
  have hother : ¬ Tracked message → Inv { s with published := s.published ++ [message] } := fun hnot =>
    ⟨h.sound.publishing message, h.kept.publishing fun htracked => absurd htracked hnot,
      h.inOrder.publishing h.sound.handedBelow message⟩
  have hnokey : Tracked message → ∀ key, (none : Option String) = some key → ∀ row ∈ s.outbox,
      row.dedupeKey ≠ some key := fun _ _ hkey => nomatch hkey
  by_cases hdied : outcome = .died
  · subst hdied
    have hinv := hother fun htracked => (hcareful htracked).1 rfl
    exact ⟨hsound, hinv.kept, hinv.inOrder⟩
  have hoffline := @publish_offline { s with published := s.published ++ [message] } message s.published.length wait outcome
  rcases Bool.eq_false_or_eq_true s.connected with hconnected | hconnected
  · cases outcome with
    | died => exact absurd rfl hdied
    | refused =>
      have heq := @publish_refused { s with published := s.published ++ [message] } message s.published.length wait
        hconnected
      rw [heq] at hsound ⊢
      exact h.stored message hsound hnokey
    | accepted confirmed =>
      have heq := @publish_accepted { s with published := s.published ++ [message] } message s.published.length wait
        confirmed hconnected
      have hnumber : ∀ n, some s.published.length = some n → n < (s.published ++ [message]).length := by
        intro n hn
        cases hn
        rw [List.length_append]
        exact Nat.lt_succ_self _
      have hhanded := h.handed message ((h.sound.publishing message).handOver hnumber)
        fun htracked => (hcareful htracked).2.2 hconnected nofun
      rw [heq] at hsound ⊢
      split at hsound
      · next hdone =>
        rw [if_pos hdone]
        exact hhanded
      · next hwaited =>
        rw [if_neg hwaited]
        have hfields := published_enqueueOutbox
          (handOver { s with published := s.published ++ [message] } (some s.published.length)) message none
          (some s.published.length)
        refine ⟨hsound, ?_, inOrder_enqueueOutbox hhanded.inOrder ?_⟩
        · rw [hfields.1, hfields.2]
          exact keptAll_enqueueOutbox hhanded.kept hhanded.sound.rows
        · rintro - n hn j hj
          cases hn
          rcases List.mem_append.mp hj with hj | hj
          · exact (h.sound.handedBelow j hj).le
          · exact (List.mem_singleton.mp hj).le
  · rw [hoffline hconnected hdied] at hsound ⊢
    split at hsound
    · next hqos =>
      rw [if_pos hqos]
      exact hother fun htracked => absurd (hqos.symm.trans htracked.qos) Nat.zero_ne_one
    · next hqos =>
      rw [if_neg hqos]
      exact h.stored message hsound fun htracked => (hcareful htracked).2.1 hconnected

/-! ## Any step -/

theorem Inv.filter (h : Inv s) {keep : Row → Bool} (hkeep : ∀ row ∈ s.outbox, Tracked row.message → keep row = true) :
    Inv { s with outbox := s.outbox.filter keep } where
  sound := h.sound.filter keep
  kept := by
    refine h.kept.mono (List.Subset.refl _) (fun row hrow n _ => ?_) h.sound.rows
    by_cases htracked : Tracked row.message
    · exact Or.inl (List.mem_filter.mpr ⟨hrow, hkeep row hrow htracked⟩)
    · exact Or.inr (Or.inr htracked)
  inOrder := h.inOrder.subset (List.filter_subset_self _)

theorem Inv.replayed (h : Inv s) {thread : Thread} {rows : List Row} (hrows : s.replays thread = row :: rows)
    (hforemost : Careful.Foremost s thread) : Inv (handOver s row.publish) := by
  have hrow : row ∈ s.replays thread := hrows ▸ List.mem_cons_self
  have hknown := h.sound.replays thread row hrow
  have hsound := h.sound.handOver hknown.lt
  cases hpublish : row.publish with
  | none =>
    have hsame : handOver s none = s := by
      unfold handOver
      rw [Option.toList_none, List.append_nil]
    rw [hsame]
    exact h
  | some n =>
    rw [hpublish] at hsound
    refine ⟨hsound, h.kept.mono (List.subset_append_left _ _) (fun row hrow n _ => Or.inl hrow) h.sound.rows,
      h.inOrder.hand (hknown.message n hpublish) ?_ ?_⟩
    · intro htracked j hj message hmessage hmtracked htopic
      exact h.inOrder.behind row (hforemost row rows hrows htracked).1 htracked n hpublish j hj message hmessage
        hmtracked htopic
    · intro htracked other hother hotracked htopic m hm
      exact (hforemost row rows hrows htracked).2 other ⟨hother, hotracked, htopic⟩ n m hpublish hm

theorem Inv.step (h : Inv s) (event : Event) (hcareful : Careful s event) : Inv (step s event) := by
  have hsound := h.sound.step event
  cases event with
  | connect => exact ⟨hsound, h.kept, h.inOrder⟩
  | disconnect => exact ⟨hsound, h.kept, h.inOrder⟩
  | restart trajectoryOutboxLimit systemLogOutboxLimit =>
    have hpruned := @Inv.filter _ h (fun row => decide (row.message.messageType ≠ "trajectory.batch") ||
      decide (row.id ∈ (newest "trajectory.batch" trajectoryOutboxLimit s.outbox).map Row.id))
      fun row _ htracked => by simp [htracked.trajectory]
    exact ⟨hsound, hpruned.kept, hpruned.inOrder⟩
  | publish message wait outcome => exact h.publish message wait outcome hcareful
  | storeBatch topic batchId =>
    have hfields := published_enqueueOutbox s ⟨topic, "trajectory.batch", 1, false, some batchId⟩ (some batchId) none
    refine ⟨hsound, ?_, inOrder_enqueueOutbox h.inOrder fun htracked => absurd rfl htracked.trajectory⟩
    simp only [MqttClient.step]
    rw [hfields.1, hfields.2]
    exact keptAll_enqueueOutbox h.kept h.sound.rows
  | ackBatch batchId => exact h.filter fun row hrow htracked => decide_eq_true (hcareful row hrow htracked)
  | startReplay thread limit =>
    simp only [MqttClient.step] at hsound ⊢
    split at hsound
    · next hoffline =>
      rw [if_pos hoffline]
      exact h
    · next honline =>
      rw [if_neg honline]
      exact ⟨hsound, h.kept, h.inOrder⟩
  | replayNext thread accepted =>
    simp only [MqttClient.step] at hsound ⊢
    cases hrows : s.replays thread with
    | nil => exact h
    | cons row rows =>
      rw [hrows] at hsound
      cases accepted with
      | false => exact ⟨hsound, h.kept, h.inOrder⟩
      | true =>
        have hhanded := h.replayed hrows (hcareful rfl)
        dsimp only at hsound ⊢
        rw [if_pos rfl] at hsound ⊢
        split at hsound
        · next htrajectory =>
          rw [if_pos htrajectory]
          exact ⟨hsound, hhanded.kept, hhanded.inOrder⟩
        · next hnot =>
          rw [if_neg hnot]
          refine ⟨hsound, hhanded.kept.mono (List.Subset.refl _) (fun other hother n hn => ?_) hhanded.sound.rows,
            hhanded.inOrder.subset (List.filter_subset_self _)⟩
          by_cases hid : other.id = row.id
          · -- the row itself, which is handed over
            obtain rfl := h.sound.same thread row (hrows ▸ List.mem_cons_self) other hother hid
            exact Or.inr (Or.inl (List.mem_append_right _ (Option.mem_toList.mpr hn)))
          · exact Or.inl (List.mem_filter.mpr ⟨hother, decide_eq_true hid⟩)
  | replayDied thread =>
    simp only [MqttClient.step] at hsound ⊢
    cases hrows : s.replays thread with
    | nil => exact h
    | cons row rows =>
      have hhanded := h.replayed hrows hcareful
      rw [hrows] at hsound
      exact ⟨hsound, hhanded.kept, hhanded.inOrder⟩

/-! ## Every run -/

theorem inv_initial (trajectoryOutboxLimit systemLogOutboxLimit : ℕ+) :
    Inv (initial trajectoryOutboxLimit systemLogOutboxLimit) := by
  refine ⟨Sound.initial _ _, ?_, ?_, ?_⟩
  · intro n message hn
    simp [initial] at hn
  · exact List.Pairwise.nil
  · intro row hrow
    exact absurd hrow List.not_mem_nil

theorem Inv.delivered (h : Inv s) : Delivered s where
  kept := h.kept
  once := ⟨h.sound.storedOnce, h.sound.storedOnce.sublist h.sound.storedRows⟩
  ordered := h.inOrder.ordered

/-- In a run of careful steps, every state reached has lost nothing and keeps the order. -/
theorem delivered_of_careful (trajectoryOutboxLimit systemLogOutboxLimit : ℕ+) (events : List Event)
    (hcareful : Run.Always step Careful (initial trajectoryOutboxLimit systemLogOutboxLimit) events) :
    ∀ reached, reached <+: events →
      Delivered (Run.exec step (initial trajectoryOutboxLimit systemLogOutboxLimit) reached) := by
  rintro reached ⟨rest, rfl⟩
  have hreached := ((Run.always_append step Careful _ reached rest).mp hcareful).1
  exact (Run.exec_invariant_of_always Inv (fun _ event h => h.step event) (inv_initial _ _) hreached).delivered

/-! ## Whatever happens -/

/-- What the outbox tells of the publishes: a row carries the message that it was stored for, no message is stored twice,
and only what was published is handed over. -/
structure Faithful (s : Client) : Prop where
  carries : ∀ row ∈ s.outbox, ∀ n, row.publish = some n → s.published[n]? = some row.message
  numbered : ∀ row ∈ s.outbox, Tracked row.message → ∃ n, row.publish = some n
  once : (s.outbox.filterMap Row.publish).Nodup
  increasing : s.outbox.Pairwise fun row other => row.id < other.id
  handed : ∀ n ∈ s.handed, n < s.published.length

/-- **The outbox makes nothing up**, in every run: whatever fails, restarts or ends the process, and whichever thread
replays. -/
theorem outbox_faithful (trajectoryOutboxLimit systemLogOutboxLimit : ℕ+) (events : List Event) :
    Faithful (Run.exec step (initial trajectoryOutboxLimit systemLogOutboxLimit) events) := by
  have h := Run.exec_invariant Sound (fun _ event h => h.step event)
    (Sound.initial trajectoryOutboxLimit systemLogOutboxLimit) events
  exact
    { carries := fun row hrow => (h.rows row hrow).message
      numbered := fun row hrow => (h.rows row hrow).number
      once := h.storedOnce.sublist h.storedRows
      increasing := h.increasing
      handed := h.handedBelow }
/-! ## An alert -/

/-- What `publish_alert` publishes. -/
def alertMessage (robot : String) : Message := ⟨"robots/" ++ robot ++ "/events/alert", "alert.event", 1, false, none⟩

theorem tracked_alertMessage (robot : String) : Tracked (alertMessage robot) where
  qos := rfl
  trajectory := by
    show "alert.event" ≠ "trajectory.batch"
    decide
  log := by
    show "alert.event" ≠ "system.log.batch"
    decide

/-- A message is queued, replayed, and followed by another of its topic. -/
def replayedFirst : List Event :=
  [.publish (alertMessage "r1") false .refused, .connect, .startReplay .outboxLoop 20, .replayNext .outboxLoop true,
    .publish (alertMessage "r1") false (.accepted false)]

theorem delivered_replayedFirst : Delivered (Run.exec step (initial 20 500) replayedFirst) := by
  refine delivered_of_careful 20 500 replayedFirst ?_ replayedFirst (List.prefix_refl _)
  refine ⟨fun _ => ⟨nofun, fun _ _ hkey => (nomatch hkey), fun h => (nomatch h)⟩, trivial, trivial, fun _ => ?_,
    fun _ => ⟨nofun, fun h => (nomatch h), fun _ _ row hrow => ?_⟩, trivial⟩
  · rintro row rows hrows -
    obtain ⟨rfl, rfl⟩ := List.cons_eq_cons.mp hrows
    refine ⟨List.mem_cons_self, fun other hother n m hn hm => ?_⟩
    obtain rfl := List.mem_singleton.mp hother.1
    exact (Option.some.inj (hn.symm.trans hm)).le
  · exact absurd hrow.1 List.not_mem_nil

/-- A message published on a new connection overtakes the one of its topic that was queued before. -/
def overtaking : List Event :=
  [.publish (alertMessage "r1") false .refused, .connect, .publish (alertMessage "r1") false (.accepted false),
    .startReplay .outboxLoop 20, .replayNext .outboxLoop true]

theorem overtaken : ¬ Delivered (Run.exec step (initial 20 500) overtaking) := by
  intro h
  have hordered := h.ordered
  rw [show (Run.exec step (initial 20 500) overtaking).handed = [1, 0] from rfl] at hordered
  have hlate := (List.pairwise_cons.mp hordered).1 0 (List.mem_singleton_self _) _ _ rfl rfl
    (tracked_alertMessage "r1") (tracked_alertMessage "r1") rfl
  exact absurd hlate (by decide)

end MqttClient

end RoamerX
