import Mathlib.Logic.Basic

set_option autoImplicit false

/-! # Computations that keep a state and may raise

An effect reads and writes a state, and returns or raises; what it did to the state before it raised
stays done. A triple says in what states an effect may return or raise, from the states that meet its
precondition. The rules follow the statements of a language with exceptions: sequence, `try`/`except`,
`try`/`finally`. -/

namespace Effects

def Effect (ε σ α : Type) : Type := σ → Except ε α × σ

variable {ε σ τ α β : Type}

namespace Effect

instance : Monad (Effect ε σ) where
  pure a := fun s => (.ok a, s)
  bind x f := fun s =>
    match x s with
    | (.ok a, s') => f a s'
    | (.error e, s') => (.error e, s')

def raise (e : ε) : Effect ε σ α := fun s => (.error e, s)

def get (f : σ → α) : Effect ε σ α := fun s => (.ok (f s), s)

def modify (f : σ → σ) : Effect ε σ Unit := fun s => (.ok (), f s)

/-- Change the state and return a value. -/
def update (f : σ → α × σ) : Effect ε σ α := fun s => (.ok (f s).1, (f s).2)

/-- Return or raise what a pure computation did. -/
def lift (x : Except ε α) : Effect ε σ α := fun s => (x, s)

def runIf (condition : Bool) (x : Effect ε σ Unit) : Effect ε σ Unit :=
  if condition then x else pure ()

/-- `try`/`except`. -/
def handle (x : Effect ε σ α) (h : ε → Effect ε σ α) : Effect ε σ α := fun s =>
  match x s with
  | (.ok a, s') => (.ok a, s')
  | (.error e, s') => h e s'

/-- `try`/`finally`; an error of the end replaces what came before. -/
def finish (x : Effect ε σ α) (last : Effect ε σ Unit) : Effect ε σ α := fun s =>
  match x s with
  | (r, s') =>
    match last s' with
    | (.ok _, s'') => (r, s'')
    | (.error e, s'') => (.error e, s'')

def within (read : σ → τ) (write : σ → τ → σ) (x : Effect ε τ α) : Effect ε σ α := fun s =>
  match x (read s) with
  | (r, t) => (r, write s t)

end Effect

open Effect

/-! ## Runs -/

section Runs

variable {x : Effect ε σ α} {f : α → Effect ε σ β} {s s' : σ}

theorem bind_of_ok {a : α} (h : x s = (.ok a, s')) : (x >>= f) s = f a s' := by
  change (match x s with
    | (.ok a, s') => f a s'
    | (.error e, s') => (.error e, s')) = _
  rw [h]

theorem bind_of_error {e : ε} (h : x s = (.error e, s')) : (x >>= f) s = (.error e, s') := by
  change (match x s with
    | (.ok a, s') => f a s'
    | (.error e, s') => (.error e, s')) = _
  rw [h]

@[simp] theorem modify_bind (g : σ → σ) (k : Unit → Effect ε σ β) (s : σ) :
    (modify g >>= k) s = k () (g s) := rfl

@[simp] theorem get_bind (g : σ → α) (k : α → Effect ε σ β) (s : σ) :
    (get g >>= k) s = k (g s) s := rfl

@[simp] theorem pure_bind (a : α) (k : α → Effect ε σ β) (s : σ) :
    ((pure a : Effect ε σ α) >>= k) s = k a s := rfl

@[simp] theorem raise_bind (e : ε) (k : α → Effect ε σ β) (s : σ) :
    ((raise e : Effect ε σ α) >>= k) s = (.error e, s) := rfl

end Runs

/-! ## Triples -/

/-- From a state that meets `P` the effect returns in `Q`, or raises in `R`. -/
def Triple (P : σ → Prop) (x : Effect ε σ α) (Q : α → σ → Prop) (R : ε → σ → Prop) : Prop :=
  ∀ s, P s →
    match x s with
    | (.ok a, s') => Q a s'
    | (.error e, s') => R e s'

variable {P P' : σ → Prop} {Q Q' : α → σ → Prop} {R R' : ε → σ → Prop} {x : Effect ε σ α}

theorem Triple.returned (h : Triple P x Q R) {s s' : σ} {a : α} (hs : P s) (hx : x s = (.ok a, s')) :
    Q a s' := by
  have hended := h s hs
  rwa [hx] at hended

theorem Triple.raised (h : Triple P x Q R) {s s' : σ} {e : ε} (hs : P s) (hx : x s = (.error e, s')) :
    R e s' := by
  have hended := h s hs
  rwa [hx] at hended

theorem Triple.kept {I : σ → Prop} (h : Triple I x (fun _ => I) (fun _ => I)) {s : σ} (hs : I s) :
    I (x s).2 := by
  match hx : x s with
  | (.ok a, s') => exact h.returned hs hx
  | (.error e, s') => exact h.raised hs hx

theorem triple_intro (hok : ∀ s a s', P s → x s = (.ok a, s') → Q a s')
    (herror : ∀ s e s', P s → x s = (.error e, s') → R e s') : Triple P x Q R := by
  intro s hs
  match hx : x s with
  | (.ok a, s') => exact hok s a s' hs hx
  | (.error e, s') => exact herror s e s' hs hx

theorem Triple.mono (h : Triple P x Q R) (hP : ∀ s, P' s → P s) (hQ : ∀ a s, Q a s → Q' a s)
    (hR : ∀ e s, R e s → R' e s) : Triple P' x Q' R' := by
  refine triple_intro ?_ ?_
  · intro s a s' hs hx
    exact hQ a s' (h.returned (hP s hs) hx)
  · intro s e s' hs hx
    exact hR e s' (h.raised (hP s hs) hx)

theorem triple_pure {a : α} (h : ∀ s, P s → Q a s) :
    Triple P (pure a : Effect ε σ α) Q R := h

theorem triple_raise {e : ε} (h : ∀ s, P s → R e s) :
    Triple P (raise e : Effect ε σ α) Q R := h

theorem triple_get {f : σ → α} (h : ∀ s, P s → Q (f s) s) :
    Triple P (get f : Effect ε σ α) Q R := h

theorem triple_modify {f : σ → σ} {Q : Unit → σ → Prop} (h : ∀ s, P s → Q () (f s)) :
    Triple P (modify f : Effect ε σ Unit) Q R := h

theorem triple_update {f : σ → α × σ} (h : ∀ s, P s → Q (f s).1 (f s).2) :
    Triple P (update f : Effect ε σ α) Q R := h

theorem triple_bind {f : α → Effect ε σ β} {M : α → σ → Prop} {Q : β → σ → Prop}
    (hx : Triple P x M R) (hf : ∀ a, Triple (M a) (f a) Q R) : Triple P (x >>= f) Q R := by
  intro s hs
  change match (match x s with
      | (.ok a, s') => f a s'
      | (.error e, s') => (.error e, s')) with
    | (.ok b, s') => Q b s'
    | (.error e, s') => R e s'
  match h : x s with
  | (.ok a, s') => exact hf a s' (hx.returned hs h)
  | (.error e, s') => exact hx.raised hs h

theorem triple_runIf {condition : Bool} {y : Effect ε σ Unit} {Q : Unit → σ → Prop}
    (hy : condition = true → Triple P y Q R) (hskip : condition = false → ∀ s, P s → Q () s) :
    Triple P (runIf condition y) Q R := by
  cases condition with
  | true => exact hy rfl
  | false => exact triple_pure (hskip rfl)

theorem triple_handle {h : ε → Effect ε σ α} {E : ε → σ → Prop} (hx : Triple P x Q E)
    (hh : ∀ e, Triple (E e) (h e) Q R) : Triple P (x.handle h) Q R := by
  intro s hs
  unfold handle
  match hr : x s with
  | (.ok a, s') => exact hx.returned hs hr
  | (.error e, s') => exact hh e s' (hx.raised hs hr)

theorem triple_finish {last : Effect ε σ Unit} {I : σ → Prop} (hx : Triple P x (fun _ => I) (fun _ => I))
    (hlast : Triple I last (fun _ => I) (fun _ => I)) :
    Triple P (x.finish last) (fun _ => I) (fun _ => I) := by
  have hend : ∀ s', I s' → ∀ r : Except ε α,
      match (match last s' with
          | (.ok _, s'') => (r, s'')
          | (.error e, s'') => ((.error e : Except ε α), s'')) with
      | (.ok _, s'') => I s''
      | (.error _, s'') => I s'' := by
    intro s' hs' r
    match hr : last s', r with
    | (.ok u, s''), .ok _ => exact hlast.returned hs' hr
    | (.ok u, s''), .error _ => exact hlast.returned hs' hr
    | (.error e, s''), _ => exact hlast.raised hs' hr
  intro s hs
  unfold finish
  match h : x s with
  | (.ok a, s') => exact hend s' (hx.returned hs h) (.ok a)
  | (.error e, s') => exact hend s' (hx.raised hs h) (.error e)

theorem triple_within {read : σ → τ} {write : σ → τ → σ} {y : Effect ε τ α}
    (h : ∀ s t, P s → P (write s t)) :
    Triple P (within read write y) (fun _ => P) (fun _ => P) := by
  intro s hs
  unfold within
  match y (read s) with
  | (.ok a, t) => exact h s t hs
  | (.error e, t) => exact h s t hs

end Effects
