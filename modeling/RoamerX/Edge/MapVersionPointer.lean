import Mathlib.Data.List.Dedup
import Mathlib.Logic.Function.Basic

set_option autoImplicit false

/-! # Switching the map version

`activate_map_version` of `map_version_pointer.py`: the paths of the map directory become links through one pointer
`current`, which is then set to the new source. Each system call that changes the directory is a step, so that a reader
or a crash can see the directory after any of them. -/

namespace RoamerX

namespace MapVersionPointer

/-- A directory: the map directory itself, or one that holds a map product. -/
inductive Place (Dir : Type)
  | root
  | version (dir : Dir)
  deriving DecidableEq

/-- Where a link of the map directory leads. -/
inductive Target (Dir : Type)
  | toFile (dir : Dir) (name : String)
  /-- `current/name` -/
  | throughCurrent (name : String)
  deriving DecidableEq

/-- What is at a path of the map directory. -/
inductive Entry (Dir Content : Type)
  | regular (content : Content)
  | link (target : Target Dir)
  deriving DecidableEq

/-- What is at `current`. -/
inductive Pointer (Dir : Type)
  | link (place : Place Dir)
  | notLink
  deriving DecidableEq

/-- A path, and the temporary path beside it. -/
structure Slot (α : Type) where
  node : Option α
  temporary : Option α := none

/-- The map directory, and the files of the map products. -/
structure MapDir (Dir Content : Type) where
  path : String
  current : Slot (Pointer Dir)
  file : String → Slot (Entry Dir Content)
  products : Dir → String → Option Content

variable {Dir Content α : Type}

/-- As many links are followed as Linux follows. -/
def maxLinks : ℕ := 40

@[simp] def resolve (files : MapDir Dir Content) : ℕ → Place Dir → String → Option (Place Dir × String)
  | _, .version dir, name => if (files.products dir name).isSome then some (.version dir, name) else none
  | links, .root, name =>
    match (files.file name).node, links with
    | some (.regular _), _ => some (.root, name)
    | some (.link (.toFile dir other)), _ + 1 =>
      if (files.products dir other).isSome then some (.version dir, other) else none
    | some (.link (.throughCurrent other)), links + 2 =>
      match files.current.node with
      | some (.link place) => resolve files links place other
      | _ => none
    | _, _ => none

/-- Whether a path of the map directory can be opened. -/
def opens (files : MapDir Dir Content) (name : String) : Bool := (resolve files maxLinks .root name).isSome

/-! ## The steps -/

/-- `_replace_symlink`: what the path holds after each system call. -/
def Slot.replaceSymlink (value : α) (slot : Slot α) : List (Slot α) :=
  let cleared := if slot.temporary.isSome then [{ slot with temporary := none }] else []
  cleared ++ [{ slot with temporary := some value }, { node := some value }]

def replaceCurrent (place : Place Dir) (files : MapDir Dir Content) : List (MapDir Dir Content) :=
  (files.current.replaceSymlink (.link place)).map fun slot => { files with current := slot }

def replaceFile (name : String) (files : MapDir Dir Content) : List (MapDir Dir Content) :=
  ((files.file name).replaceSymlink (.link (.throughCurrent name))).map fun slot =>
    { files with file := Function.update files.file name slot }

/-- What the directory is after each step of one thing after the other. -/
@[simp] def inOrder {σ : Type} : List (σ → List σ) → σ → List σ
  | [], _ => []
  | first :: rest, state => first state ++ inOrder rest ((first state).getLastD state)

variable [DecidableEq Dir]

def initialSource (files : MapDir Dir Content) (source : Place Dir) (required : List String) : Place Dir :=
  match (required.filterMap fun name => (resolve files maxLinks .root name).map Prod.fst).dedup with
  | [place] => place
  | _ => source

/-- Everything that the call changes, in order. -/
def changes (files : MapDir Dir Content) (source : Place Dir) (required optional : List String) :
    List (MapDir Dir Content → List (MapDir Dir Content)) :=
  (match files.current.node with
    | some (.link _) => []
    | _ => [replaceCurrent (initialSource files source required)]) ++
    (required ++ optional).map replaceFile ++ [replaceCurrent source]

/-- `activate_map_version`: the directory after each step, and the files that are switched. -/
def activateMapVersion (files : MapDir Dir Content) (source : Place Dir) (required optional : List String) :
    Except String (List (MapDir Dir Content) × List String) :=
  let found (name : String) : Bool := (resolve files maxLinks source name).isSome
  if source = .root then .error "map source must be an immutable child directory"
  else if required.any fun name => !found name then
    .error ("map source is missing: " ++ ", ".intercalate (required.filter fun name => !found name))
  else if files.current.node matches some .notLink then
    .error ("map version pointer is not a symlink: " ++ files.path ++ "/current")
  else
    let states := inOrder (changes files source required optional) files
    let switched := states.getLastD files
    match required.find? fun name =>
        decide (resolve switched maxLinks .root name ≠ resolve switched maxLinks source name) with
    | some name => .error ("map pointer verification failed for " ++ name)
    | none => .ok (states, (required ++ optional).filter found)

/-! ## What a reader or a crash may see -/

structure Intact (required optional : List String) (before files : MapDir Dir Content) : Prop where
  opens : ∀ name ∈ required, opens before name = true → opens files name = true
  kept : ∀ name ∈ required ++ optional, ∀ content, (before.file name).node = some (.regular content) →
    (files.file name).node = some (.regular content)
  products : files.products = before.products

/-- Every state is intact, and in the last one all the paths are those of the source. -/
structure Safe (source : Place Dir) (required optional : List String) (before : MapDir Dir Content)
    (states : List (MapDir Dir Content)) : Prop where
  intact : ∀ files ∈ states, Intact required optional before files
  required : ∀ name ∈ required, resolve (states.getLastD before) maxLinks .root name = some (source, name)
  optional : ∀ name ∈ optional, resolve (states.getLastD before) maxLinks .root name =
    resolve (states.getLastD before) maxLinks source name

/-- The map product in a directory has a file. -/
def holds (files : MapDir Dir Content) (place : Place Dir) (name : String) : Prop :=
  ∃ dir, place = .version dir ∧ (files.products dir name).isSome = true

/-- No path is a regular file, and the paths are also found under their names where the pointer leads at first: where
it leads already, or else where all of them lead. -/
structure Linked (required optional : List String) (files : MapDir Dir Content) : Prop where
  links : ∀ name ∈ required ++ optional, ∀ content, (files.file name).node ≠ some (.regular content)
  pointed : ∀ place, files.current.node = some (.link place) → ∀ name ∈ required, opens files name = true →
    holds files place name
  oneSource : files.current.node = none → ∀ place,
    (∀ name ∈ required, ∀ found, resolve files maxLinks .root name = some found → found.1 = place) →
    ∀ name ∈ required, opens files name = true → holds files place name

/-! ## Steps in order -/

section Order

variable {σ : Type}

theorem getLastD_append (xs ys : List σ) (state : σ) :
    (xs ++ ys).getLastD state = ys.getLastD (xs.getLastD state) := by
  induction xs generalizing state with
  | nil => rfl
  | cons x xs ih => rw [List.cons_append, List.getLastD_cons, List.getLastD_cons, ih]

theorem inOrder_append (xs ys : List (σ → List σ)) (state : σ) :
    inOrder (xs ++ ys) state = inOrder xs state ++ inOrder ys ((inOrder xs state).getLastD state) := by
  induction xs generalizing state with
  | nil => rfl
  | cons first xs ih => rw [List.cons_append, inOrder, inOrder, ih, List.append_assoc, getLastD_append]

theorem mem_replaceSymlink {value : σ} {slot state : Slot σ} (h : state ∈ slot.replaceSymlink value) :
    state.node = slot.node ∨ state.node = some value := by
  unfold Slot.replaceSymlink at h
  simp only [List.mem_append, List.mem_cons, List.not_mem_nil, or_false] at h
  rcases h with h | rfl | rfl
  · split at h
    · obtain rfl := List.mem_singleton.mp h
      exact Or.inl rfl
    · exact absurd h List.not_mem_nil
  · exact Or.inl rfl
  · exact Or.inr rfl

theorem getLastD_replaceSymlink {τ : Type} (f : Slot σ → τ) (value : σ) (slot : Slot σ) (other : τ) :
    ((slot.replaceSymlink value).map f).getLastD other = f { node := some value } := by
  unfold Slot.replaceSymlink
  split <;> rfl

end Order

/-- The pointer is as told, the named paths are links through it, and all else is as before. -/
structure Replaced (before : MapDir Dir Content) (pointer : Option (Pointer Dir)) (names : List String)
    (files : MapDir Dir Content) : Prop where
  products : files.products = before.products
  current : files.current.node = pointer
  linked : ∀ name ∈ names, (files.file name).node = some (.link (.throughCurrent name))
  left : ∀ name ∉ names, (files.file name).node = (before.file name).node

variable {before files : MapDir Dir Content} {pointer : Option (Pointer Dir)} {names : List String} {place : Place Dir}

section Paths

omit [DecidableEq Dir]

theorem Replaced.start : Replaced before before.current.node [] before :=
  ⟨rfl, rfl, fun _ h => absurd h List.not_mem_nil, fun _ _ => rfl⟩

theorem Replaced.replaceCurrent (h : Replaced before pointer names files) (place : Place Dir) :
    (∀ state ∈ replaceCurrent place files,
      Replaced before pointer names state ∨ Replaced before (some (.link place)) names state) ∧
    Replaced before (some (.link place)) names ((replaceCurrent place files).getLastD files) := by
  unfold MapVersionPointer.replaceCurrent
  constructor
  · intro state hstate
    obtain ⟨slot, hslot, rfl⟩ := List.mem_map.mp hstate
    rcases mem_replaceSymlink hslot with hnode | hnode
    · exact Or.inl ⟨h.products, hnode.trans h.current, h.linked, h.left⟩
    · exact Or.inr ⟨h.products, hnode, h.linked, h.left⟩
  · rw [getLastD_replaceSymlink]
    exact ⟨h.products, rfl, h.linked, h.left⟩

theorem Replaced.replaceFile (h : Replaced before pointer names files) (name : String) :
    (∀ state ∈ replaceFile name files,
      Replaced before pointer names state ∨ Replaced before pointer (names ++ [name]) state) ∧
    Replaced before pointer (names ++ [name]) ((replaceFile name files).getLastD files) := by
  have hold : ∀ slot : Slot (Entry Dir Content), slot.node = (files.file name).node →
      Replaced before pointer names { files with file := Function.update files.file name slot } := by
    intro slot hslot
    have hnode : ∀ other, (Function.update files.file name slot other).node = (files.file other).node := by
      intro other
      by_cases hother : other = name
      · rw [hother, Function.update_self, hslot]
      · rw [Function.update_of_ne hother]
    exact ⟨h.products, h.current, fun other ho => (hnode other).trans (h.linked other ho),
      fun other ho => (hnode other).trans (h.left other ho)⟩
  have hnew : ∀ slot : Slot (Entry Dir Content), slot.node = some (.link (.throughCurrent name)) →
      Replaced before pointer (names ++ [name]) { files with file := Function.update files.file name slot } := by
    intro slot hslot
    refine ⟨h.products, h.current, fun other ho => ?_, fun other ho => ?_⟩
    · by_cases hother : other = name
      · dsimp only
        rw [hother, Function.update_self, hslot]
      · have hmem := (List.mem_append.mp ho).resolve_right fun hlast => hother (List.mem_singleton.mp hlast)
        exact (congrArg Slot.node (Function.update_of_ne hother _ _)).trans (h.linked other hmem)
    · have hother : other ≠ name := fun heq => ho (heq ▸ List.mem_append_right _ (List.mem_singleton_self _))
      exact (congrArg Slot.node (Function.update_of_ne hother _ _)).trans
        (h.left other fun hmem => ho (List.mem_append_left _ hmem))
  unfold MapVersionPointer.replaceFile
  constructor
  · intro state hstate
    obtain ⟨slot, hslot, rfl⟩ := List.mem_map.mp hstate
    exact (mem_replaceSymlink hslot).imp (hold slot) (hnew slot)
  · rw [getLastD_replaceSymlink]
    exact hnew _ rfl

theorem Replaced.replaceFiles (todo : List String) (h : Replaced before pointer names files) :
    (∀ state ∈ inOrder (todo.map MapVersionPointer.replaceFile) files, ∃ done, Replaced before pointer done state) ∧
    Replaced before pointer (names ++ todo) ((inOrder (todo.map MapVersionPointer.replaceFile) files).getLastD files) := by
  induction todo generalizing names files with
  | nil => exact ⟨fun _ hstate => absurd hstate List.not_mem_nil, (List.append_nil names).symm ▸ h⟩
  | cons name todo ih =>
    obtain ⟨hstates, hlast⟩ := h.replaceFile name
    obtain ⟨hrest, hend⟩ := ih hlast
    rw [List.map_cons, inOrder, getLastD_append]
    constructor
    · intro state hstate
      rcases List.mem_append.mp hstate with hfirst | hlater
      · exact (hstates state hfirst).elim (fun hold => ⟨_, hold⟩) fun hnew => ⟨_, hnew⟩
      · exact hrest state hlater
    · rwa [List.append_assoc] at hend

/-! ## What the paths name -/

@[simp]
theorem resolve_version (files : MapDir Dir Content) (links : ℕ) (dir : Dir) (name : String) :
    resolve files links (.version dir) name =
      if (files.products dir name).isSome then some (.version dir, name) else none := by
  rw [resolve]

theorem resolve_linked {name : String} (hfile : (files.file name).node = some (.link (.throughCurrent name)))
    (hcurrent : files.current.node = some (.link place)) (links : ℕ) :
    resolve files (links + 2) .root name = resolve files links place name := by
  rw [resolve.eq_def]
  simp only [hfile, hcurrent]

theorem resolve_loop {name : String} (hfile : (files.file name).node = some (.link (.throughCurrent name)))
    (hcurrent : files.current.node = some (.link .root)) (links : ℕ) : resolve files links .root name = none := by
  induction links using Nat.strongRecOn with
  | _ links ih =>
    match links with
    | 0 | 1 =>
      rw [resolve.eq_def]
      simp only [hfile]
    | links + 2 => rw [resolve_linked hfile hcurrent, ih links (by omega)]

theorem opens_linked {name : String} (hfile : (files.file name).node = some (.link (.throughCurrent name)))
    (hcurrent : files.current.node = some (.link place)) : opens files name = true ↔ holds files place name := by
  unfold opens maxLinks holds
  cases place with
  | root => simp [resolve_loop hfile hcurrent]
  | version dir =>
    rw [resolve_linked hfile hcurrent, resolve_version]
    by_cases hproduct : (files.products dir name).isSome = true
    · simp [hproduct]
    · simp [hproduct]

/-- A path that is left as it was can still be opened, as long as the pointer leads to the same product. -/
theorem opens_left {name : String} (hproducts : files.products = before.products)
    (hfile : (files.file name).node = (before.file name).node)
    (hcurrent : ∀ place, before.current.node = some (.link place) →
      files.current.node = some (.link place) ∧ place ≠ .root)
    (h : opens before name = true) : opens files name = true := by
  unfold opens maxLinks at h ⊢
  rw [resolve.eq_def] at h ⊢
  dsimp only at h ⊢
  rw [hfile]
  rcases hnode : (before.file name).node with _ | content | target
  · rw [hnode] at h
    exact h
  · rfl
  rw [hnode] at h
  cases target with
  | toFile dir other =>
    rw [hproducts]
    exact h
  | throughCurrent other =>
    dsimp only at h ⊢
    rcases hbefore : before.current.node with _ | place | _
    · rw [hbefore] at h
      exact Bool.noConfusion h
    · obtain ⟨hsame, hversion⟩ := hcurrent place hbefore
      rw [hbefore] at h
      rw [hsame]
      cases place with
      | root => exact absurd rfl hversion
      | version dir =>
        dsimp only at h ⊢
        rw [resolve_version] at h ⊢
        rw [hproducts]
        exact h
    · rw [hbefore] at h
      exact Bool.noConfusion h

end Paths

/-! ## A whole call -/

section Call

variable {source : Place Dir} {required optional : List String} {states : List (MapDir Dir Content)}
  {switched : List String}

/-- Where the pointer leads until it is set to the source. -/
def firstPlace (files : MapDir Dir Content) (source : Place Dir) (required : List String) : Place Dir :=
  match files.current.node with
  | some (.link place) => place
  | _ => initialSource files source required

/-- The states of a call: the pointer is made where it is missing, the paths are replaced, and the pointer is set. -/
theorem replaced_changes (files : MapDir Dir Content) (source : Place Dir) (required optional : List String) :
    let states := inOrder (changes files source required optional) files
    (∀ state ∈ states, Replaced files files.current.node [] state ∨
      (∃ done, Replaced files (some (.link (firstPlace files source required))) done state) ∨
      Replaced files (some (.link source)) (required ++ optional) state) ∧
    (∃ state ∈ files :: states,
      Replaced files (some (.link (firstPlace files source required))) (required ++ optional) state) ∧
    states ≠ [] ∧ Replaced files (some (.link source)) (required ++ optional) (states.getLastD files) := by
  intro states
  -- from the state where the pointer leads to the first place on
  have hrest : ∀ start, Replaced files (some (.link (firstPlace files source required))) [] start →
      let later := inOrder ((required ++ optional).map replaceFile ++ [replaceCurrent source]) start
      (∀ state ∈ later, (∃ done, Replaced files (some (.link (firstPlace files source required))) done state) ∨
        Replaced files (some (.link source)) (required ++ optional) state) ∧
      (∃ state ∈ start :: later,
        Replaced files (some (.link (firstPlace files source required))) (required ++ optional) state) ∧
      later ≠ [] ∧ Replaced files (some (.link source)) (required ++ optional) (later.getLastD start) := by
    intro start hstart later
    obtain ⟨hfiles, hlinked⟩ := hstart.replaceFiles (required ++ optional)
    rw [List.nil_append] at hlinked
    obtain ⟨hcurrent, hlast⟩ := hlinked.replaceCurrent source
    have hlater : later = inOrder ((required ++ optional).map replaceFile) start ++
        replaceCurrent source ((inOrder ((required ++ optional).map replaceFile) start).getLastD start) := by
      simp only [later, inOrder_append, inOrder, List.append_nil]
    rw [hlater, getLastD_append]
    refine ⟨fun state hstate => ?_, ⟨_, ?_, hlinked⟩, ?_, hlast⟩
    · rcases List.mem_append.mp hstate with hfile | hswitch
      · exact Or.inl (hfiles state hfile)
      · exact (hcurrent state hswitch).imp (fun h => ⟨_, h⟩) id
    · rw [← List.cons_append]
      exact List.mem_append_left _ List.getLastD_mem_cons
    · simp [replaceCurrent, Slot.replaceSymlink]
  by_cases hlink : ∃ place, files.current.node = some (.link place)
  · obtain ⟨place, hplace⟩ := hlink
    have hfirst : files.current.node = some (.link (firstPlace files source required)) := by
      simp only [firstPlace, hplace]
    have hstates : states = inOrder ((required ++ optional).map replaceFile ++ [replaceCurrent source]) files := by
      simp only [states, changes, hplace, List.nil_append]
    obtain ⟨hall, hmiddle, hnonempty, hlast⟩ := hrest files (hfirst ▸ Replaced.start)
    rw [hstates]
    exact ⟨fun state hstate => Or.inr (hall state hstate), hmiddle, hnonempty, hlast⟩
  · -- the pointer is made first
    have hfirst : firstPlace files source required = initialSource files source required := by
      unfold firstPlace
      split
      next place hplace => exact absurd ⟨place, hplace⟩ hlink
      · rfl
    have hstates : states = inOrder ([replaceCurrent (firstPlace files source required)] ++
        ((required ++ optional).map replaceFile ++ [replaceCurrent source])) files := by
      rw [hfirst]
      simp only [states, changes, List.append_assoc]
      congr 2
      split
      next place hplace => exact absurd ⟨place, hplace⟩ hlink
      · rfl
    obtain ⟨hpointer, hstart⟩ := (show Replaced files _ [] files from Replaced.start).replaceCurrent
      (firstPlace files source required)
    obtain ⟨hall, ⟨middle, hmiddle, hreplaced⟩, hnonempty, hlast⟩ := hrest _ hstart
    have hone : inOrder [replaceCurrent (firstPlace files source required)] files =
        replaceCurrent (firstPlace files source required) files := List.append_nil _
    rw [hstates, inOrder_append, getLastD_append, hone]
    refine ⟨fun state hstate => ?_, ⟨middle, ?_, hreplaced⟩, ?_, hlast⟩
    · rcases List.mem_append.mp hstate with hswitch | hlater
      · exact (hpointer state hswitch).imp id fun h => Or.inl ⟨_, h⟩
      · exact Or.inr (hall state hlater)
    · rcases List.mem_cons.mp hmiddle with rfl | hlater
      · rw [← List.cons_append]
        exact List.mem_append_left _ List.getLastD_mem_cons
      · exact List.mem_cons_of_mem _ (List.mem_append_right _ hlater)
    · exact List.append_ne_nil_of_right_ne_nil _ hnonempty

theorem activateMapVersion_ok {files : MapDir Dir Content}
    (h : activateMapVersion files source required optional = .ok (states, switched)) :
    states = inOrder (changes files source required optional) files ∧ source ≠ .root ∧
      (∀ name ∈ required, holds files source name) ∧ files.current.node ≠ some .notLink := by
  unfold activateMapVersion at h
  dsimp only at h
  split at h
  · exact nomatch h
  next hroot =>
  split at h
  · exact nomatch h
  next hmissing =>
  split at h
  · exact nomatch h
  next hpointer =>
  rw [if_neg Bool.false_ne_true] at h
  split at h
  · exact nomatch h
  obtain ⟨rfl, -⟩ := Prod.mk.inj (Except.ok.inj h)
  refine ⟨rfl, hroot, fun name hname => ?_, hpointer⟩
  cases source with
  | root => exact absurd rfl hroot
  | version dir =>
    refine ⟨dir, rfl, ?_⟩
    by_contra hproduct
    exact hmissing (List.any_eq_true.mpr ⟨name, hname, by simp [hproduct]⟩)

theorem initialSource_eq {files : MapDir Dir Content} {name : String} (hname : name ∈ required)
    (hopens : opens files name = true)
    (hone : ∀ name ∈ required, ∀ found, resolve files maxLinks .root name = some found → found.1 = place) :
    initialSource files source required = place := by
  have hplaces : ∀ found ∈ required.filterMap fun name => (resolve files maxLinks .root name).map Prod.fst,
      found = place := by
    intro found hfound
    obtain ⟨other, hother, hresolve⟩ := List.mem_filterMap.mp hfound
    obtain ⟨file, hfile, rfl⟩ := Option.map_eq_some_iff.mp hresolve
    exact hone other hother file hfile
  obtain ⟨file, hfile⟩ := Option.isSome_iff_exists.mp hopens
  have hmem : file.1 ∈ required.filterMap fun name => (resolve files maxLinks .root name).map Prod.fst :=
    List.mem_filterMap.mpr ⟨name, hname, by rw [hfile]; rfl⟩
  unfold initialSource
  rw [List.eq_replicate_of_mem hplaces, List.replicate_dedup (Nat.pos_iff_ne_zero.mp (List.length_pos_of_mem hmem))]

theorem Linked.holds_firstPlace {files : MapDir Dir Content} {name : String} (h : Linked required optional files)
    (hsource : ∀ name ∈ required, holds files source name) (hpointer : files.current.node ≠ some .notLink)
    (hname : name ∈ required) (hopens : opens files name = true) :
    holds files (firstPlace files source required) name := by
  unfold firstPlace
  rcases hcurrent : files.current.node with _ | place | _
  · dsimp only
    by_cases hone : ∃ place, ∀ name ∈ required, ∀ found, resolve files maxLinks .root name = some found →
        found.1 = place
    · obtain ⟨place, hplace⟩ := hone
      rw [initialSource_eq hname hopens hplace]
      exact h.oneSource hcurrent place hplace name hname hopens
    · -- the paths lead to several directories
      have hsome : initialSource files source required = source := by
        unfold initialSource
        split
        next place hplaces =>
          refine absurd ⟨place, fun other hother found hfound => ?_⟩ hone
          have hmem : found.1 ∈ (required.filterMap fun name =>
              (resolve files maxLinks .root name).map Prod.fst).dedup :=
            List.mem_dedup.mpr (List.mem_filterMap.mpr ⟨other, hother, by rw [hfound]; rfl⟩)
          rw [hplaces] at hmem
          exact List.mem_singleton.mp hmem
        · rfl
      rw [hsome]
      exact hsource name hname
  · exact h.pointed place hcurrent name hname hopens
  · exact absurd hcurrent hpointer

theorem resolve_switched (files : MapDir Dir Content) (required optional : List String) (hroot : source ≠ .root) :
    let last := (inOrder (changes files source required optional) files).getLastD files
    last.products = files.products ∧ ∀ name ∈ required ++ optional,
      resolve last maxLinks .root name = resolve files maxLinks source name := by
  intro last
  obtain ⟨-, -, -, hlast⟩ := replaced_changes files source required optional
  refine ⟨hlast.products, fun name hname => ?_⟩
  have hlinked : resolve last maxLinks .root name = resolve last (maxLinks - 2) source name :=
    resolve_linked (hlast.linked name hname) hlast.current (maxLinks - 2)
  rw [hlinked]
  cases source with
  | root => exact absurd rfl hroot
  | version dir => rw [resolve_version, resolve_version, hlast.products]

/-- **Nothing is lost on the way** exactly where the paths of the map directory are links whose names the first place
of the pointer has. -/
theorem safe_iff {files : MapDir Dir Content}
    (h : activateMapVersion files source required optional = .ok (states, switched)) :
    Safe source required optional files states ↔ Linked required optional files := by
  obtain ⟨rfl, hroot, hsource, hpointer⟩ := activateMapVersion_ok h
  obtain ⟨hall, ⟨middle, hmiddle, hreplaced⟩, hnonempty, hlast⟩ := replaced_changes files source required optional
  obtain ⟨-, hswitched⟩ := resolve_switched files required optional hroot
  generalize inOrder (changes files source required optional) files = states at *
  constructor
  · intro hsafe
    have hend : states.getLastD files ∈ states := by
      rw [List.getLastD_eq_getLast?, List.getLast?_eq_some_getLast hnonempty]
      exact List.getLast_mem hnonempty
    have hfirst : ∀ name ∈ required, opens files name = true → holds files (firstPlace files source required) name := by
      intro name hname hopens
      have hstill : opens middle name = true := by
        rcases List.mem_cons.mp hmiddle with rfl | hstate
        · exact hopens
        · exact (hsafe.intact middle hstate).opens name hname hopens
      have hheld := (opens_linked (hreplaced.linked name (List.mem_append_left _ hname)) hreplaced.current).mp hstill
      unfold holds at hheld ⊢
      rwa [hreplaced.products] at hheld
    refine ⟨fun name hname content hregular => ?_, fun place hplace name hname hopens => ?_,
      fun hmissing place hone name hname hopens => ?_⟩
    · have hkept := (hsafe.intact _ hend).kept name hname content hregular
      rw [hlast.linked name hname] at hkept
      exact nomatch hkept
    · have hheld := hfirst name hname hopens
      rwa [firstPlace, hplace] at hheld
    · have hheld := hfirst name hname hopens
      rwa [firstPlace, hmissing, initialSource_eq hname hopens hone] at hheld
  · intro hlinked
    -- a pointer that is there leads to a product, and is the first place
    have hversion : ∀ name ∈ required, opens files name = true → ∀ place, files.current.node = some (.link place) →
        place = firstPlace files source required ∧ place ≠ .root := by
      intro name hname hopens place hplace
      obtain ⟨dir, rfl, -⟩ := hlinked.pointed place hplace name hname hopens
      exact ⟨by rw [firstPlace, hplace], nofun⟩
    have hopens : ∀ state ∈ states, ∀ name ∈ required, opens files name = true → opens state name = true := by
      intro state hstate name hname hopens
      rcases hall state hstate with hsame | ⟨done, hfirst⟩ | hend
      · exact opens_left hsame.products (hsame.left name List.not_mem_nil)
          (fun place hplace => ⟨hsame.current.trans hplace, (hversion name hname hopens place hplace).2⟩) hopens
      · by_cases hdone : name ∈ done
        · refine (opens_linked (hfirst.linked name hdone) hfirst.current).mpr ?_
          unfold holds
          rw [hfirst.products]
          exact hlinked.holds_firstPlace hsource hpointer hname hopens
        · refine opens_left hfirst.products (hfirst.left name hdone) (fun place hplace => ?_) hopens
          obtain ⟨rfl, hroot⟩ := hversion name hname hopens place hplace
          exact ⟨hfirst.current, hroot⟩
      · refine (opens_linked (hend.linked name (List.mem_append_left _ hname)) hend.current).mpr ?_
        unfold holds
        rw [hend.products]
        exact hsource name hname
    refine ⟨fun state hstate => ⟨hopens state hstate, fun name hname content hregular =>
      absurd hregular (hlinked.links name hname content), ?_⟩, fun name hname => ?_, fun name hname => ?_⟩
    · rcases hall state hstate with hsame | ⟨done, hfirst⟩ | hend
      · exact hsame.products
      · exact hfirst.products
      · exact hend.products
    · obtain ⟨dir, rfl, hproduct⟩ := hsource name hname
      rw [hswitched name (List.mem_append_left _ hname), resolve_version, if_pos hproduct]
    · rw [hswitched name (List.mem_append_right _ hname)]
      cases source with
      | root => exact absurd rfl hroot
      | version dir => rw [resolve_version, resolve_version, hlast.products]

theorem activateMapVersion_isOk (files : MapDir Dir Content) (source : Place Dir) (required optional : List String) :
    (∃ states switched, activateMapVersion files source required optional = .ok (states, switched)) ↔
      source ≠ .root ∧ (∀ name ∈ required, holds files source name) ∧ files.current.node ≠ some .notLink := by
  constructor
  · rintro ⟨states, switched, h⟩
    exact (activateMapVersion_ok h).2
  · rintro ⟨hroot, hsource, hpointer⟩
    obtain ⟨hproducts, hswitched⟩ := resolve_switched files required optional hroot
    have hmissing : ¬ (required.any fun name => !(resolve files maxLinks source name).isSome) = true := by
      intro hany
      obtain ⟨name, hname, hnone⟩ := List.any_eq_true.mp hany
      obtain ⟨dir, rfl, hproduct⟩ := hsource name hname
      rw [resolve_version, if_pos hproduct] at hnone
      exact Bool.noConfusion hnone
    have hverified : required.find? (fun name => decide
        (resolve ((inOrder (changes files source required optional) files).getLastD files) maxLinks .root name ≠
          resolve ((inOrder (changes files source required optional) files).getLastD files) maxLinks source name)) =
        none := by
      refine List.find?_eq_none.mpr fun name hname => ?_
      obtain ⟨dir, rfl, hproduct⟩ := hsource name hname
      rw [hswitched name (List.mem_append_left _ hname), resolve_version, resolve_version, hproducts]
      simp
    refine ⟨inOrder (changes files source required optional) files,
      (required ++ optional).filter fun name => (resolve files maxLinks source name).isSome, ?_⟩
    unfold activateMapVersion
    dsimp only
    rw [if_neg hroot, if_neg hmissing, hverified]
    split
    next hnot => exact absurd hnot hpointer
    · rfl

end Call

/-! ## Two layouts -/

/-- A map directory with the given pointer and entries, and two map products. -/
def twoProducts (current : Option (Pointer Bool)) (entry : Entry Bool ℕ) : MapDir Bool ℕ where
  path := "map"
  current := { node := current }
  file name := { node := if name = "map.pcd" then some entry else none }
  products dir name := if name = "map.pcd" then some (if dir then 1 else 0) else none

/-- A link into the one product is moved to the other. -/
theorem safe_twoProducts : ∃ states,
    activateMapVersion (twoProducts none (.link (.toFile false "map.pcd"))) (.version true) ["map.pcd"] ["map.txt"] =
        .ok (states, ["map.pcd"]) ∧
      Safe (.version true) ["map.pcd"] ["map.txt"] (twoProducts none (.link (.toFile false "map.pcd"))) states := by
  refine ⟨_, rfl, (safe_iff rfl).mpr ⟨fun name _ content => ?_, (fun place hplace => nomatch hplace), ?_⟩⟩
  · unfold twoProducts
    dsimp only
    split <;> exact nofun
  · intro _ place hone name hname _
    obtain rfl := List.mem_singleton.mp hname
    obtain rfl : Place.version false = place := hone "map.pcd" hname (.version false, "map.pcd") rfl
    exact ⟨false, rfl, rfl⟩

/-- A regular file becomes a link to itself, which cannot be opened, and what it held is gone. -/
theorem not_safe_regular : ∃ states,
    activateMapVersion (twoProducts none (.regular 7)) (.version true) ["map.pcd"] ["map.txt"] =
        .ok (states, ["map.pcd"]) ∧
      (∃ files ∈ states, opens files "map.pcd" = false) ∧
      ¬ Safe (.version true) ["map.pcd"] ["map.txt"] (twoProducts none (.regular 7)) states := by
  have hany : (inOrder (changes (twoProducts none (.regular 7)) (.version true) ["map.pcd"] ["map.txt"])
      (twoProducts none (.regular 7))).any (fun files => opens files "map.pcd" = false) = true := by decide
  have hbroken := List.any_eq_true.mp hany
  simp only [decide_eq_true_eq] at hbroken
  refine ⟨_, rfl, hbroken, fun h => ?_⟩
  obtain ⟨files, hfiles, hclosed⟩ := hbroken
  have hopens := (h.intact files hfiles).opens "map.pcd" (List.mem_singleton_self _) rfl
  exact Bool.noConfusion (hclosed.symm.trans hopens)

end MapVersionPointer

end RoamerX
