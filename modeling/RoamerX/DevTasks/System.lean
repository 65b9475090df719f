import RoamerX.DevTasks.Agent
import RoamerX.Lib.Run

set_option autoImplicit false

/-! # The center and the dev agent of one robot

The two ends and the messages between them. A message may be delivered late, in any order, more than
once or not at all; the broker keeps the last presence and hands it to a center that connects. -/

namespace RoamerX

structure DevSystem where
  center : DevCenter := {}
  agent : DevAgent := {}
  toAgent : List DevOrder := []
  toCenter : List DevReport := []
  /-- `agent_restarted` of the retained presence. -/
  retained : Option Bool := none

/-- A step of either end, or of the broker. Where its place is empty nothing happens. -/
inductive DevStep
  | create (t : DevelopmentTask)
  /-- `publish_pending_development_tasks`: the query, and for each row the message and the save. -/
  | readPending (now : ℕ)
  | publishTask
  /-- `publish_json` raises, and the loop ends. -/
  | publishFails
  | savePublished
  /-- The same of `publish_pending_development_controls`. -/
  | readControls (now : ℕ)
  | publishControl
  | saveControlled
  /-- The cancel view. -/
  | readCancel (id : Uuid)
  | saveCancel (i : ℕ) (now : ℕ)
  /-- The center handles the message at `i`, which may be delivered again. -/
  | report (i : ℕ) (again : Bool) (now : ℕ)
  /-- The center connects to the broker. -/
  | centerConnects (now : ℕ)
  /-- The agent receives the message at `i`, which may be delivered again. -/
  | order (i : ℕ) (again : Bool) (now : ℕ)
  | loseOrder (i : ℕ)
  | loseReport (i : ℕ)
  | thread (i : ℕ) (now : ℕ) (move : DevAgent.Move)
  | agentRestarts
  | agentConnects
  | heartbeat

namespace DevSystem

variable (s : DevSystem)

/-- The messages on their way to the center after the agent published some. -/
def publish (reports : List DevReport) : DevSystem :=
  { s with toCenter := s.toCenter ++ reports }

/-- A presence is published and retained. -/
def publishPresence (agentRestarted : Bool) : DevSystem :=
  { s with
    toCenter := s.toCenter ++ [.presence agentRestarted]
    retained := some agentRestarted }

/-- The message of the next row that was read. -/
def publishTask : DevSystem :=
  match s.center.publishing, s.center.published with
  | t :: rest, none =>
    { s with
      center := { s.center with publishing := rest, published := some t }
      toAgent := s.toAgent ++ [.task t] }
  | _, _ => s

def savePublished : DevSystem :=
  match s.center.published with
  | some t =>
    { s with
      center :=
        { s.center.update t.id (DevCenter.markPublished s.center.queriedAt) with published := none } }
  | none => s

/-- The control of the next row that was read. -/
def publishControl : DevSystem :=
  match s.center.controls, s.center.controlled with
  | t :: rest, none =>
    { s with
      center := { s.center with controls := rest, controlled := some t }
      toAgent := s.toAgent ++ [.cancel t.id] }
  | _, _ => s

def saveControlled : DevSystem :=
  match s.center.controlled with
  | some t =>
    { s with
      center :=
        { s.center.update t.id (fun row =>
            { row with cancelPublishedAt := some s.center.controlsQueriedAt }) with
          controlled := none } }
  | none => s

/-- The messages left when the one at `i` is delivered. -/
def left {α : Type} (messages : List α) (i : ℕ) (again : Bool) : List α :=
  if again then messages else messages.eraseIdx i

def report (i : ℕ) (again : Bool) (now : ℕ) : DevSystem :=
  match s.toCenter[i]? with
  | some message =>
    { s with
      center := s.center.handle now message
      toCenter := left s.toCenter i again }
  | none => s

def order (i : ℕ) (again : Bool) (now : ℕ) : DevSystem :=
  match s.toAgent[i]? with
  | some message =>
    let outcome := s.agent.receive now message
    ({ s with agent := outcome.1, toAgent := left s.toAgent i again } : DevSystem).publish outcome.2
  | none => s

def thread (config : DevAgentConfig) (i : ℕ) (now : ℕ) (move : DevAgent.Move) : DevSystem :=
  match s.agent.threads[i]? with
  | some th =>
    let outcome := s.agent.stepThread config i th now move
    ({ s with agent := outcome.1 } : DevSystem).publish outcome.2
  | none => s

def step (config : DevAgentConfig) : DevStep → DevSystem
  | .create t => { s with center := s.center.create t }
  | .readPending now => { s with center := s.center.readPending now }
  | .publishTask => s.publishTask
  | .publishFails => { s with center := { s.center with publishing := [] } }
  | .savePublished => s.savePublished
  | .readControls now => { s with center := s.center.readControls now }
  | .publishControl => s.publishControl
  | .saveControlled => s.saveControlled
  | .readCancel id => { s with center := s.center.readCancel id }
  | .saveCancel i now => { s with center := s.center.writeCancel i now }
  | .report i again now => s.report i again now
  | .centerConnects now =>
    { s with center := s.center.handlePresence (s.retained.getD false) now }
  | .order i again now => s.order i again now
  | .loseOrder i => { s with toAgent := s.toAgent.eraseIdx i }
  | .loseReport i => { s with toCenter := s.toCenter.eraseIdx i }
  | .thread i now move => s.thread config i now move
  | .agentRestarts => { s with agent := s.agent.restart }
  | .agentConnects =>
    ({ s with agent := { s.agent with startupPresencePending := false } } : DevSystem).publishPresence
      s.agent.startupPresencePending
  | .heartbeat => s.publishPresence false

def run (config : DevAgentConfig) (steps : List DevStep) : DevSystem :=
  Run.exec (step · config) s steps

/-! ## What the ends agree on -/

/-- The row of `id` is terminal. -/
def IsTerminal (id : Uuid) : Prop := ∃ t, s.center.task? id = some t ∧ t.status.isTerminal = true

/-- The row of `id` is rejected or failed. -/
def IsRefusedOrFailed (id : Uuid) : Prop :=
  ∃ t, s.center.task? id = some t ∧ (t.status = .rejected ∨ t.status = .failed)

/-- What has to hold of a step of the system. -/
structure Agrees (config : DevAgentConfig) (a : DevStep) : Prop where
  /-- What is terminal stays terminal. -/
  terminal : ∀ id, s.IsTerminal id → (s.step config a).IsTerminal id
  /-- No process is started for a terminal task. -/
  started : ∀ r, (s.step config a).agent.runs = r :: s.agent.runs → ¬ s.IsTerminal r.taskId
  /-- One process for a task, and its retry. -/
  once : ∀ id, (s.step config a).agent.runs.count (.first id) ≤ 1
  /-- No task is marked rejected or failed while its process runs. -/
  marked : ∀ id, ¬ s.IsRefusedOrFailed id → (s.step config a).IsRefusedOrFailed id →
    s.agent.process ≠ some id ∧ (s.step config a).agent.process ≠ some id

end DevSystem

end RoamerX
