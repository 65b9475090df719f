import RoamerX.Lib.Keyed
import RoamerX.Protocol.TaskStart

set_option autoImplicit false

/-! # Localization progress at the center

`_merge_localization_command_result` of `message_handlers.py`. While a localization command runs, the Edge
reports what it has tried: the stages of the search and the attempts of a stage. A later packet may tell of a
part only, so it is merged into what is stored. An entry of the two lists is merged with the one of its
identity. -/

namespace RoamerX

namespace LocalizationProgress

abbrev Members := List (String × Json)

/-- The lists whose entries have an identity. -/
inductive ListKind
  | stages | attempts
  deriving DecidableEq

def ListKind.key : ListKind → String
  | .stages => "stages"
  | .attempts => "attempts"

/-- `key in {"attempts", "stages"}`. -/
def listKind? (key : String) : Option ListKind :=
  if key = "stages" then some .stages
  else if key = "attempts" then some .attempts
  else none

/-- What `_localization_list_identity` returns, where it is not `None`. -/
inductive Identity
  | stage (stage : String)
  | attempt (stage number : String)
  deriving DecidableEq

/-- `previous if isinstance(previous, dict) else {}`. -/
def membersOf : Json → Members
  | .obj members => members
  | _ => []

/-- `previous if isinstance(previous, list) else []`. -/
def itemsOf : Option Json → List Json
  | some (.arr items) => items
  | _ => []

/-! ## Equality of values -/

/-- The value of a number; `True` and `False` are 1 and 0. -/
def numeric? : Json → Option ℚ
  | .bool b => some (if b then 1 else 0)
  | .num (.int n) => some n
  | .num (.float q) => some q
  | _ => none

mutual

/-- `left == right`. -/
def equals : Json → Json → Bool
  | .null, .null => true
  | .str s, .str t => decide (s = t)
  | .arr items, .arr items' => equalsItems items items'
  | .obj members, .obj members' => decide (members.length = members'.length) && equalsMembers members members'
  | left, right => match numeric? left, numeric? right with
    | some p, some q => decide (p = q)
    | _, _ => false

def equalsItems : List Json → List Json → Bool
  | [], [] => true
  | item :: items, item' :: items' => equals item item' && equalsItems items items'
  | _, _ => false

def equalsMembers : Members → Members → Bool
  | [], _ => true
  | (key, value) :: rest, members => (match Json.get? members key with
      | some value' => equals value value'
      | none => false) && equalsMembers rest members

end

variable (texts : Texts)

/-! ## Merging -/

/-- `_localization_list_identity`. -/
def identity (kind : ListKind) (item : Members) : Option Identity :=
  match kind with
  | .stages =>
    let stage := texts.str (orElse (Json.get? item "stage") (.str ""))
    if stage = "" then none else some (.stage stage)
  | .attempts =>
    match (Json.get? item "candidate_number").getD ((Json.get? item "index").getD .null) with
    | .null => none
    | number => some (.attempt (texts.str (orElse (Json.get? item "stage")
        (orElse (Json.get? item "source") (.str "")))) (texts.str number))

def identity? (kind : ListKind) : Json → Option Identity
  | .obj item => identity texts kind item
  | _ => none

/-- `positions`: of items of one identity, the last. -/
def positionsOf (kind : ListKind) (items : List Json) : List (Identity × ℕ) :=
  (items.zipIdx.filterMap fun (item, index) => (identity? texts kind item).map fun id => (id, index)).reverse

mutual

/-- `_deep_merge_localization_mapping`, member by member. -/
def deepMerge (merged : Members) : Members → Members
  | [] => merged
  | (key, value) :: rest =>
    deepMerge (Json.set merged key (mergedValue key (Json.get? merged key) value)) rest

def mergedValue (key : String) (old : Option Json) : Json → Json
  | .obj incoming => match old with
    | some (.obj previous) => .obj (deepMerge previous incoming)
    | _ => .obj incoming
  | .arr incoming => match listKind? key with
    | some kind => .arr (mergeList kind (itemsOf old) (positionsOf texts kind (itemsOf old)) incoming)
    | none => .arr incoming
  | value => value

/-- `_merge_localization_list`, item by item. -/
def mergeList (kind : ListKind) (merged : List Json) (positions : List (Identity × ℕ)) : List Json → List Json
  | [] => merged
  | .obj item :: rest =>
    match identity texts kind item with
    | none => mergeList kind (merged ++ [.obj item]) positions rest
    | some id =>
      match positions.lookup id with
      | none => mergeList kind (merged ++ [.obj item]) ((id, merged.length) :: positions) rest
      | some index =>
        mergeList kind (merged.set index (.obj (deepMerge (membersOf (merged.getD index .null)) item))) positions rest
  | raw :: rest =>
    if merged.any (equals raw) then mergeList kind merged positions rest
    else mergeList kind (merged ++ [raw]) positions rest

end

/-! ## Packets -/

/-- `_LOCALIZATION_PROGRESS_COMMAND_TYPES`. -/
def progressCommandTypes : List String := ["nav.initial_pose", "nav.relocalize", "task.start"]

/-- A packet of a command, by its `result`. -/
inductive Packet
  | progress (result : Option Json)
  | result (result : Option Json)

/-- `payload.get("result") or {}`, and `{}` for what is no object. -/
def Packet.members : Packet → Members
  | .progress (some (.obj members)) | .result (some (.obj members)) => members
  | _ => []

/-- `result_payload` after a packet that `_handle_command_progress` or `_handle_command_result` takes in. -/
def store (commandType : String) (stored : Members) (packet : Packet) : Members :=
  if commandType ∈ progressCommandTypes then deepMerge texts stored packet.members
  else match packet with
    | .progress _ => packet.members.foldl (fun stored member => Json.set stored member.1 member.2) stored
    | .result _ => packet.members

/-- `result_payload` after the packets. -/
def record (commandType : String) (packets : List Packet) : Members := packets.foldl (store texts commandType) []

/-! ## Records in order -/

/-- The fields that identify an entry; none of them is an object. -/
structure Plain (item : Members) : Prop where
  stage : ∀ inner, Json.get? item "stage" ≠ some (.obj inner)
  source : ∀ inner, Json.get? item "source" ≠ some (.obj inner)
  candidateNumber : ∀ inner, Json.get? item "candidate_number" ≠ some (.obj inner)
  index : ∀ inner, Json.get? item "index" ≠ some (.obj inner)

def Entry (kind : ListKind) (item : Json) : Prop :=
  ∃ members id, item = .obj members ∧ Plain members ∧ identity texts kind members = some id

/-- Every entry has an identity, no two the same. -/
structure Identified (kind : ListKind) (items : List Json) : Prop where
  entry : ∀ item ∈ items, Entry texts kind item
  nodup : (items.map (identity? texts kind)).Nodup

/-- An object without repeated keys, the entries of whose lists of stages and of attempts are identified, and
    so for the objects and the entries in it. -/
inductive Tidy : Members → Prop
  | mk {members : Members} (keys : (members.map Prod.fst).Nodup)
      (objects : ∀ key inner, (key, Json.obj inner) ∈ members → Tidy inner)
      (lists : ∀ kind items, (ListKind.key kind, Json.arr items) ∈ members → Identified texts kind items)
      (entries : ∀ kind items inner, (ListKind.key kind, Json.arr items) ∈ members → Json.obj inner ∈ items →
        Tidy inner) : Tidy members

theorem tidy_nil : Tidy texts [] := Tidy.mk List.nodup_nil nofun nofun nofun

end LocalizationProgress

end RoamerX
