import StateMachine.Proofs.Plan
import StateMachine.Workshop

/-!
# What workshops uphold

A workshop is asked for one thing after another. Whatever compiling keeps true of compilers and of
the dispatchers that it makes is true of all compilers and of everything in the caches, after any
requests. Some of this rests on an assumption about the end of the requests: that no two routines
were asked for under one name. Compilers keep a record of what they asked for, so the assumption
held all the time before.
-/

namespace StateMachine

open LabelTypes (Carrier)

/-! ### Stores -/

namespace Store

variable {κ : Type} {β : κ → Type} {P Q : (key : κ) → β key → Prop}

/-- Every value has a property that may depend on its key. -/
def All (P : (key : κ) → β key → Prop) (s : Store κ β) : Prop := ∀ e ∈ s.entries, P e.1 e.2

lemma all_empty : (empty : Store κ β).All P := by
  simp [All, empty]

lemma All.imp {s : Store κ β} (hs : s.All P) (h : ∀ key v, P key v → Q key v) : s.All Q :=
  fun e he => h e.1 e.2 (hs e he)

variable [DecidableEq κ]

lemma mem_of_lookup {key : κ} {v : β key} {l : List ((key : κ) × β key)}
    (h : lookup key l = some v) : ⟨key, v⟩ ∈ l := by
  induction l with
  | nil => cases h
  | cons e l ih =>
    rw [lookup] at h
    split at h
    · next heq =>
      subst heq
      cases h
      exact List.mem_cons_self
    · exact List.mem_cons_of_mem _ (ih h)

lemma All.find? {s : Store κ β} (hs : s.All P) {key : κ} {v : β key} (h : s.find? key = some v) :
    P key v :=
  hs ⟨key, v⟩ (mem_of_lookup h)

lemma All.insertNew {s : Store κ β} (hs : s.All P) {key : κ} {v : β key} (hv : P key v) :
    (s.insertNew key v).All P := by
  rw [Store.insertNew]
  split
  · exact hs
  · intro e he
    rcases List.mem_append.mp he with he | he
    · exact hs e he
    · obtain rfl := List.mem_singleton.mp he
      exact hv

lemma find?_insertNew {s : Store κ β} {key : κ} {v : β key} (h : s.find? key = none) :
    (s.insertNew key v).find? key = some v := by
  simp only [Store.insertNew, h]
  rw [Store.find?] at h ⊢
  generalize s.entries = l at h ⊢
  induction l with
  | nil => simp [lookup]
  | cons e l ih =>
    rw [lookup] at h
    rw [List.cons_append, lookup]
    split_ifs at h ⊢ with heq
    exact ih h

lemma find?_insertNew_of_ne {s : Store κ β} {key key' : κ} {v : β key} (h : key ≠ key') :
    (s.insertNew key v).find? key' = s.find? key' := by
  rw [Store.insertNew]
  split
  · rfl
  · rw [Store.find?, Store.find?]
    induction s.entries with
    | nil => simp [lookup, h]
    | cons e l ih =>
      rw [List.cons_append, lookup, lookup]
      split_ifs
      · rfl
      · exact ih

end Store

/-! ### Caches -/

namespace Cache

variable {κ ω ε : Type} {β : κ → Type} [DecidableEq κ] {c : Cache κ β} {key : κ}
  {make : ω → Except ε (β key) × ω} {world world' : ω} {v : β key}

/-- A value that is there is handed out, and nothing is made. -/
lemma findOrMake_of_find? (h : c.find? key = some v) :
    c.findOrMake key make world = (.ok v, { c with hits := c.hits + 1 }, world) := by
  simp [findOrMake, h]

/-- A value that is not there is made and kept. -/
lemma findOrMake_of_made (h : c.find? key = none) (hmake : make world = (.ok v, world')) :
    c.findOrMake key make world =
      (.ok v, { c with misses := c.misses + 1, store := c.store.insertNew key v }, world') := by
  simp [findOrMake, h, hmake]

/-- If a value cannot be made, only the count of the misses changes. -/
lemma findOrMake_of_failed {e : ε} (h : c.find? key = none)
    (hmake : make world = (.error e, world')) :
    c.findOrMake key make world = (.error e, { c with misses := c.misses + 1 }, world') := by
  simp [findOrMake, h, hmake]

/-- A value is there, or it can be made, or it cannot. -/
lemma findOrMake_cases (c : Cache κ β) (key : κ) (make : ω → Except ε (β key) × ω) (world : ω) :
    (∃ v, c.find? key = some v) ∨
      c.find? key = none ∧
        ((∃ v world', make world = (.ok v, world')) ∨
          ∃ e world', make world = (.error e, world')) := by
  cases hfind : c.find? key with
  | some v => exact .inl ⟨v, rfl⟩
  | none =>
    rcases hmake : make world with ⟨e | v, world'⟩
    · exact .inr ⟨rfl, .inr ⟨e, world', rfl⟩⟩
    · exact .inr ⟨rfl, .inl ⟨v, world', rfl⟩⟩

/-- The world changes only if something is made. -/
lemma world_of_findOrMake (h : c.find? key = none) :
    (c.findOrMake key make world).2.2 = (make world).2 := by
  rcases hmake : make world with ⟨e | v, world'⟩
  · rw [findOrMake_of_failed h hmake]
  · rw [findOrMake_of_made h hmake]

/-- A cache hands out what it has, or else what is made, and has it from then on. -/
lemma findOrMake_eq_ok (h : (c.findOrMake key make world).1 = .ok v) :
    (c.find? key = some v ∨ c.find? key = none ∧ (make world).1 = .ok v) ∧
      (c.findOrMake key make world).2.1.find? key = some v := by
  obtain ⟨u, hfind⟩ | ⟨hfind, ⟨u, world', hmake⟩ | ⟨e, world', hmake⟩⟩ :=
    findOrMake_cases c key make world
  · rw [findOrMake_of_find? hfind] at h ⊢
    cases h
    exact ⟨.inl hfind, hfind⟩
  · rw [findOrMake_of_made hfind hmake] at h ⊢
    cases h
    exact ⟨.inr ⟨hfind, by rw [hmake]⟩, Store.find?_insertNew hfind⟩
  · rw [findOrMake_of_failed hfind hmake] at h
    cases h

/-- A cache answers if the value can be made. -/
lemma exists_findOrMake (c : Cache κ β) (key : κ) {make : ω → Except ε (β key) × ω} {world : ω}
    {v : β key} (h : (make world).1 = .ok v) : ∃ v', (c.findOrMake key make world).1 = .ok v' := by
  obtain ⟨u, hfind⟩ | ⟨hfind, ⟨u, world', hmake⟩ | ⟨e, world', hmake⟩⟩ :=
    findOrMake_cases c key make world
  · exact ⟨u, by rw [findOrMake_of_find? hfind]⟩
  · exact ⟨u, by rw [findOrMake_of_made hfind hmake]⟩
  · rw [hmake] at h
    cases h

/-- A cache gives out what has the property of its values, as long as only such values are made. -/
lemma findOrMake_all {P : (key : κ) → β key → Prop} {Q : ω → Prop} (hc : c.store.All P)
    (hmade : c.find? key = none → Q (make world).2 ∧ ∀ v, (make world).1 = .ok v → P key v)
    (hworld : Q world) :
    (c.findOrMake key make world).2.1.store.All P ∧ Q (c.findOrMake key make world).2.2 ∧
      ∀ v, (c.findOrMake key make world).1 = .ok v → P key v := by
  obtain ⟨u, hfind⟩ | ⟨hfind, ⟨u, world', hmake⟩ | ⟨e, world', hmake⟩⟩ :=
    findOrMake_cases c key make world
  · rw [findOrMake_of_find? hfind]
    refine ⟨hc, hworld, ?_⟩
    rintro v ⟨⟩
    exact hc.find? hfind
  · obtain ⟨hQ, hP⟩ := hmade hfind
    rw [hmake] at hQ hP
    rw [findOrMake_of_made hfind hmake]
    refine ⟨hc.insertNew (hP u rfl), hQ, ?_⟩
    rintro v ⟨⟩
    exact hP u rfl
  · have hQ := (hmade hfind).1
    rw [hmake] at hQ
    rw [findOrMake_of_failed hfind hmake]
    exact ⟨hc, hQ, by rintro v ⟨⟩⟩

end Cache

/-! ### Compilers -/

section

variable {ι : Type} [LabelTypes ι]

namespace Bench

variable {b : Bench ι} {j : Job ι}

@[simp] lemma requests_load (s : SymbolType) (o : RoutineOrigin ι) (plan : Plan s.kind)
    (b : Bench ι) :
    (b.load s o plan).2.station.requests = b.station.requests ++ [(s, o)] := by
  rw [load]
  dsimp only
  split <;> rfl

/-- Loading keeps a property of routines, and gives out a routine that has it. -/
lemma load_all {P : (key : RoutineKey) → LoadedPlan key.symbols.kind → Prop}
    (hb : b.station.loader.All P) {s : SymbolType} {o : RoutineOrigin ι} {plan : Plan s.kind}
    (hplan : P ⟨s, o.name⟩ ⟨b.serial, plan⟩) :
    (b.load s o plan).2.station.loader.All P ∧ P ⟨s, o.name⟩ (b.load s o plan).1 := by
  rw [load]
  dsimp only
  split
  · next routine hfind => exact ⟨hb, hb.find? hfind⟩
  · exact ⟨hb.insertNew hplan, hplan⟩

/-- A model that cannot be planned is not compiled either. -/
lemma compile_of_error {e : Error} (h : (b.station.compiler.plan j.model).result = .error e) :
    (b.compile j).1 = .error e ∧ (b.compile j).2.station = b.station := by
  simp [compile, h]

/-- A model that can be planned is compiled: its plan is loaded, and the routine that is found or
made for it becomes the routine of a dispatcher. -/
lemma compile_of_ok {n : Numbering (Carrier j.labels)} {plan : Plan j.symbols.kind}
    (h : (b.station.compiler.plan j.model).result = .ok (n, plan)) :
    ∃ b' : Bench ι, b'.station = b.station ∧
      (b.compile j).2.station = (b'.load j.symbols (b.origin j n) plan).2.station ∧
      ∃ serial, (b.compile j).1 =
        let routine := (b'.load j.symbols (b.origin j n) plan).1
        .ok ⟨serial, routine.serial, ⟨routine.plan.transit, n, some j.model.fingerprint⟩⟩ := by
  refine ⟨{ b with log := b.log ++ (b.station.compiler.plan j.model).log }, rfl, ?_⟩
  simp only [compile, h]
  exact ⟨rfl, _, rfl⟩

lemma compile_eq_error_iff {e : Error} :
    (b.compile j).1 = .error e ↔ (b.station.compiler.plan j.model).result = .error e := by
  cases h : (b.station.compiler.plan j.model).result with
  | error e' => rw [(compile_of_error h).1, Except.error.injEq, Except.error.injEq]
  | ok r =>
    obtain ⟨_, -, -, serial, hok⟩ := compile_of_ok h
    simp [hok]

lemma exists_compile {r : Numbering (Carrier j.labels) × Plan j.symbols.kind}
    (h : (b.station.compiler.plan j.model).result = .ok r) : ∃ d, (b.compile j).1 = .ok d := by
  obtain ⟨_, -, -, serial, hok⟩ := compile_of_ok h
  exact ⟨_, hok⟩

/-- A routine that was loaded under the name is used, whatever it was made for. -/
lemma exists_compile_of_find? {n : Numbering (Carrier j.labels)} {plan : Plan j.symbols.kind}
    (h : (b.station.compiler.plan j.model).result = .ok (n, plan)) {r : LoadedPlan j.symbols.kind}
    (hr : b.station.loader.find? ⟨j.symbols, (b.origin j n).name⟩ = some r) :
    ∃ d, (b.compile j).1 = .ok d ∧ d.dispatcher.numbering = n ∧
      d.dispatcher.routine = r.plan.transit := by
  obtain ⟨b', hb', -, serial, hok⟩ := compile_of_ok h
  have hload : (b'.load j.symbols (b.origin j n) plan).1 = r := by
    rw [← hb'] at hr
    simp [load, hr]
  rw [hload] at hok
  exact ⟨_, hok, rfl, rfl⟩

/-- A new dispatcher numbers the states in the order of its model. -/
lemma values_of_compile {d : j.key.Item} (h : (b.compile j).1 = .ok d) :
    d.dispatcher.numbering.values = j.model.labels := by
  cases hplan : (b.station.compiler.plan j.model).result with
  | error e =>
    rw [(compile_of_error hplan).1] at h
    cases h
  | ok r =>
    obtain ⟨_, -, -, serial, hok⟩ := compile_of_ok hplan
    rw [hok] at h
    cases h
    exact (Compiler.plan_eq_ok hplan).1

/-- Compiling asks for one routine at most, and what was asked for stays on record. -/
lemma requests_compile (b : Bench ι) (j : Job ι) :
    (b.compile j).2.station.requests = b.station.requests ∨
      ∃ o, (b.compile j).2.station.requests = b.station.requests ++ [(j.symbols, o)] := by
  cases hplan : (b.station.compiler.plan j.model).result with
  | error e => exact .inl (by rw [(compile_of_error hplan).2])
  | ok r =>
    obtain ⟨b', hb', hstation, -⟩ := compile_of_ok hplan
    exact .inr ⟨_, by rw [hstation, requests_load, hb']⟩

lemma requests_subset_compile (b : Bench ι) (j : Job ι) :
    b.station.requests ⊆ (b.compile j).2.station.requests := by
  rcases requests_compile b j with h | ⟨o, h⟩
  · rw [h]
    exact List.Subset.refl _
  · rw [h]
    exact List.subset_append_left _ _

@[simp] lemma publishing_fst {α : Type} (fingerprint : String)
    (make : Bench ι → Except Error α × Bench ι) (b : Bench ι) :
    (publishing fingerprint make b).1 = (make b).1 := by
  rw [publishing]
  rcases make b with ⟨result, b'⟩
  cases result <;> rfl

@[simp] lemma publishing_station {α : Type} (fingerprint : String)
    (make : Bench ι → Except Error α × Bench ι) (b : Bench ι) :
    (publishing fingerprint make b).2.station = (make b).2.station := by
  rw [publishing]
  rcases make b with ⟨result, b'⟩
  cases result <;> rfl

end Bench

namespace Station

/-- No two routines for symbols of one type were asked for under one name. -/
def NamesApart (st : Station ι) : Prop :=
  ∀ s o o', (s, o) ∈ st.requests → (s, o') ∈ st.requests → o.name = o'.name → o = o'

lemma namesApart_of_length_le_one {st : Station ι} (h : st.requests.length ≤ 1) :
    st.NamesApart := by
  intro s o o' ho ho' _
  rcases hrequests : st.requests with _ | ⟨r, _ | _⟩
  · simp [hrequests] at ho
  · rw [hrequests, List.mem_singleton] at ho ho'
    exact congrArg Prod.snd (ho.trans ho'.symm)
  · simp [hrequests] at h

/-- Every loaded routine has a property for something that it was asked for under its name. -/
def Loaded (S : (s : SymbolType) → RoutineOrigin ι → LoadedPlan s.kind → Prop)
    (st : Station ι) : Prop :=
  st.loader.All fun key r => ∃ o, (key.symbols, o) ∈ st.requests ∧ o.name = key.name ∧
    S key.symbols o r

end Station

/-- As long as names stay apart, a routine that is found under a name is as good as a new one. -/
lemma Bench.load_loaded {S : (s : SymbolType) → RoutineOrigin ι → LoadedPlan s.kind → Prop}
    {b : Bench ι} (hb : b.station.Loaded S) {s : SymbolType} {o : RoutineOrigin ι}
    {plan : Plan s.kind} (hplan : S s o ⟨b.serial, plan⟩)
    (hnames : (b.load s o plan).2.station.NamesApart) :
    (b.load s o plan).2.station.Loaded S ∧ S s o (b.load s o plan).1 := by
  have hself : (s, o) ∈ (b.load s o plan).2.station.requests := by simp
  have hloader := hb.imp (Q := fun key r => ∃ o', (key.symbols, o') ∈
      (b.load s o plan).2.station.requests ∧ o'.name = key.name ∧ S key.symbols o' r) <| by
    rintro key r ⟨o', hmem, h⟩
    exact ⟨o', by simp [hmem], h⟩
  obtain ⟨hstation, o', hmem, hname, hfound⟩ := load_all hloader ⟨o, hself, rfl, hplan⟩
  rw [hnames s o' o hmem hself hname] at hfound
  exact ⟨hstation, hfound⟩

/-! ### Requests -/

/-- A way to ask a compiler for a dispatcher. -/
inductive Order
  | compile (station : Nat)
  | compileUncached (station : Nat)
  /-- Takes the dispatcher from any cache, or lets the compiler make it. -/
  | findOrCompile (cache station : Nat)

/-- The compiler that is asked. -/
def Order.station : Order → Nat
  | .compile i => i
  | .compileUncached i => i
  | .findOrCompile _ i => i

/-- What a workshop can be asked to do. -/
inductive Request (ι : Type) [LabelTypes ι]
  | addCache
  | addCompiler (compiler : Compiler) (shared : Option Nat)
  | clearCache (cache : Nat)
  | order (o : Order) (j : Job ι)

/-- Only models with a property are ordered. -/
def OnlyOrders (C : Job ι → Prop) (rs : List (Request ι)) : Prop := ∀ o j, .order o j ∈ rs → C j

/-- A property of dispatchers that may depend on the key under which they are cached. -/
abbrev CacheProperty (ι : Type) [LabelTypes ι] := (key : CacheKey ι) → key.Item → Prop

/-- Compiling a model keeps a property of compilers, and gives a dispatcher that could be cached, as
long as the compiler meets an assumption afterwards. -/
def Job.Upholds (j : Job ι) (A : Station ι → Prop) (P : CacheProperty ι) (Q : Station ι → Prop) :
    Prop :=
  ∀ b : Bench ι, Q b.station → A (b.compile j).2.station →
    Q (b.compile j).2.station ∧ ∀ d, (b.compile j).1 = .ok d → P j.key d

/-- While names stay apart, what is true of plans for what they are made for is true of loaded
routines, and dispatchers have what follows from it. -/
lemma Job.upholds_of_loaded {j : Job ι} {P : CacheProperty ι}
    {S : (s : SymbolType) → RoutineOrigin ι → LoadedPlan s.kind → Prop}
    (hplan : ∀ (b : Bench ι) n plan, (b.station.compiler.plan j.model).result = .ok (n, plan) →
      ∀ serial, S j.symbols (b.origin j n) ⟨serial, plan⟩)
    (hfound : ∀ (b : Bench ι) n (r : LoadedPlan j.symbols.kind), S j.symbols (b.origin j n) r →
      ∀ serial, P j.key ⟨serial, r.serial, ⟨r.plan.transit, n, some j.model.fingerprint⟩⟩) :
    j.Upholds Station.NamesApart P (Station.Loaded S) := by
  intro b hb hnames
  cases h : (b.station.compiler.plan j.model).result with
  | error e =>
    obtain ⟨hresult, hstation⟩ := Bench.compile_of_error h
    rw [hresult, hstation]
    exact ⟨hb, by rintro d ⟨⟩⟩
  | ok r =>
    obtain ⟨b', hb', hstation, serial, hresult⟩ := Bench.compile_of_ok h
    rw [hstation] at hnames ⊢
    rw [← hb'] at hb
    obtain ⟨hloaded, hroutine⟩ := Bench.load_loaded hb (hplan b _ _ h _) hnames
    refine ⟨hloaded, ?_⟩
    rw [hresult]
    rintro d ⟨⟩
    exact hfound b _ _ hroutine serial

end

/-! ### Workshops -/

namespace Workshop

variable {ι : Type} [LabelTypes ι] [DecidableEq ι]

/-- The answer to an order, if there are such a compiler and such a cache. -/
def fulfil (w : Workshop ι) (j : Job ι) : Order → Option (Answer ι j.key.Item)
  | .compile i => w.compile i j
  | .compileUncached i => w.compileUncached i j
  | .findOrCompile c i => w.findOrCompile c i j (Bench.compile j)

/-- The workshop after a request. -/
def perform (w : Workshop ι) : Request ι → Workshop ι
  | .addCache => w.addCache.2
  | .addCompiler compiler shared => (w.addCompiler compiler shared).2
  | .clearCache c => w.clearCache c
  | .order o j => ((w.fulfil j o).map Answer.workshop).getD w

/-- The workshop after requests, from an empty one. -/
def after (rs : List (Request ι)) : Workshop ι := rs.foldl perform .empty

lemma after_append_singleton (rs : List (Request ι)) (r : Request ι) :
    after (rs ++ [r]) = (after rs).perform r := by
  rw [after, List.foldl_append]
  rfl

lemma perform_of_fulfil {w : Workshop ι} {o : Order} {j : Job ι} {a : Answer ι j.key.Item}
    (h : w.fulfil j o = some a) : w.perform (.order o j) = a.workshop := by
  rw [perform, h]
  rfl

variable {w : Workshop ι} {j : Job ι} {o : Order} {a : Answer ι j.key.Item}

/-- What comes of asking a cache before a compiler. -/
lemma findOrCompile_eq_some {c i : Nat} {make : Bench ι → Except Error j.key.Item × Bench ι}
    (h : w.findOrCompile c i j make = some a) :
    ∃ st cache, w.stations[i]? = some st ∧ w.caches[c]? = some cache ∧
      let found := cache.findOrMake j.key (Bench.publishing j.model.fingerprint make) (w.bench st)
      a.result = found.1 ∧
        a.workshop = { w.putBack i found.2.2 with caches := w.caches.set c found.2.1 } := by
  obtain ⟨st, hst, h⟩ := Option.bind_eq_some_iff.mp h
  obtain ⟨cache, hcache, h⟩ := Option.bind_eq_some_iff.mp h
  obtain rfl := Option.some_inj.mp h
  exact ⟨st, cache, hst, hcache, rfl, rfl⟩

/-- A compiler that does not refuse a model asks its cache. -/
lemma compile_eq_some {i : Nat} (h : w.compile i j = some a) :
    (∃ e, a.result = .error e ∧ a.workshop = w) ∨
      ∃ st, w.stations[i]? = some st ∧ w.findOrCompile st.cache i j (Bench.compile j) = some a := by
  obtain ⟨st, hst, h⟩ := Option.bind_eq_some_iff.mp h
  split at h
  · next e _ =>
    obtain rfl := Option.some_inj.mp h
    exact .inl ⟨e, rfl, rfl⟩
  · exact .inr ⟨st, hst, h⟩

/-- An order leaves the compilers as they are, or the one that is asked compiles. -/
lemma stations_of_fulfil (h : w.fulfil j o = some a) :
    a.workshop.stations = w.stations ∨ ∃ st, w.stations[o.station]? = some st ∧
      a.workshop.stations = w.stations.set o.station ((w.bench st).compile j).2.station := by
  have hcached : ∀ {c i}, w.findOrCompile c i j (Bench.compile j) = some a →
      a.workshop.stations = w.stations ∨ ∃ st, w.stations[i]? = some st ∧
        a.workshop.stations = w.stations.set i ((w.bench st).compile j).2.station := by
    intro c i h
    obtain ⟨st, cache, hst, -, -, hworkshop⟩ := findOrCompile_eq_some h
    rw [hworkshop]
    cases hfind : cache.find? j.key with
    | some d =>
      left
      obtain ⟨hlt, rfl⟩ := List.getElem?_eq_some_iff.mp hst
      rw [Cache.findOrMake_of_find? hfind]
      exact List.set_getElem_self hlt
    | none =>
      right
      refine ⟨st, hst, ?_⟩
      rw [putBack, Cache.world_of_findOrMake hfind, Bench.publishing_station]
  cases o with
  | compile i =>
    rcases compile_eq_some h with ⟨e, -, hsame⟩ | ⟨st, -, h⟩
    · exact .inl (by rw [hsame])
    · exact hcached h
  | compileUncached i =>
    obtain ⟨st, hst, rfl⟩ := Option.map_eq_some_iff.mp h
    exact .inr ⟨st, hst, rfl⟩
  | findOrCompile c i => exact hcached h

/-- All compilers meet an assumption. -/
def Meets (w : Workshop ι) (A : Station ι → Prop) : Prop := ∀ st ∈ w.stations, A st

/-- Every compiler is still there, with what it has asked for on record. -/
lemma exists_station_perform (w : Workshop ι) (r : Request ι) {st : Station ι}
    (hst : st ∈ w.stations) :
    ∃ st' ∈ (w.perform r).stations, st.requests ⊆ st'.requests := by
  cases r with
  | addCache => exact ⟨st, hst, List.Subset.refl _⟩
  | addCompiler compiler shared =>
    refine ⟨st, ?_, List.Subset.refl _⟩
    cases shared with
    | some i => exact List.mem_append_left _ hst
    | none => exact List.mem_append_left _ hst
  | clearCache c => exact ⟨st, hst, List.Subset.refl _⟩
  | order o j =>
    cases h : w.fulfil j o with
    | none =>
      rw [perform, h]
      exact ⟨st, hst, List.Subset.refl _⟩
    | some a =>
      rw [perform_of_fulfil h]
      rcases stations_of_fulfil h with hsame | ⟨st', hst', hset⟩
      · exact ⟨st, hsame ▸ hst, List.Subset.refl _⟩
      · obtain ⟨i, hi⟩ := List.mem_iff_getElem?.mp hst
        rw [hset]
        by_cases heq : o.station = i
        · subst heq
          obtain rfl := Option.some_inj.mp (hst'.symm.trans hi)
          refine ⟨_, List.mem_of_getElem? (List.getElem?_set_self ?_),
            Bench.requests_subset_compile (w.bench st') j⟩
          exact (List.getElem?_eq_some_iff.mp hst').1
        · refine ⟨st, List.mem_of_getElem? (i := i) ?_, List.Subset.refl _⟩
          rw [List.getElem?_set_ne heq, hi]

/-- An assumption that a compiler meets all the more if it has asked for less. -/
def Hereditary (A : Station ι → Prop) : Prop := ∀ st st', st.requests ⊆ st'.requests → A st' → A st

omit [DecidableEq ι] in
lemma hereditary_namesApart : Hereditary (Station.NamesApart (ι := ι)) := by
  intro st st' hsub hst' s o o' ho ho'
  exact hst' s o o' (hsub ho) (hsub ho')

lemma Meets.of_perform {A : Station ι → Prop} (hA : Hereditary A) {r : Request ι}
    (h : (w.perform r).Meets A) : w.Meets A := by
  intro st hst
  obtain ⟨st', hst', hsub⟩ := exists_station_perform w r hst
  exact hA st st' hsub (h st' hst')

/-- All cached dispatchers and all compilers have a property. -/
structure Upholds (w : Workshop ι) (P : CacheProperty ι) (Q : Station ι → Prop) : Prop where
  caches : ∀ c ∈ w.caches, c.store.All P
  stations : ∀ st ∈ w.stations, Q st

variable {A : Station ι → Prop} {P : CacheProperty ι} {Q : Station ι → Prop}

omit [DecidableEq ι] in
lemma upholds_empty : (empty : Workshop ι).Upholds P Q := by
  constructor <;> simp [empty]

omit [DecidableEq ι] in
lemma Upholds.addCache (hw : w.Upholds P Q) : w.addCache.2.Upholds P Q := by
  refine ⟨?_, hw.stations⟩
  intro c hc
  rcases List.mem_append.mp hc with hc | hc
  · exact hw.caches c hc
  · rw [List.mem_singleton.mp hc]
    exact Store.all_empty

omit [DecidableEq ι] in
lemma Upholds.addStation (hw : w.Upholds P Q) {st : Station ι} (hst : Q st) :
    (⟨w.stations ++ [st], w.caches, w.serial⟩ : Workshop ι).Upholds P Q := by
  refine ⟨hw.caches, ?_⟩
  intro st' hst'
  rcases List.mem_append.mp hst' with hst' | hst'
  · exact hw.stations st' hst'
  · rw [List.mem_singleton.mp hst']
    exact hst

omit [DecidableEq ι] in
lemma Upholds.addCompiler (hw : w.Upholds P Q) {compiler : Compiler}
    (hnew : ∀ cache, Q ⟨compiler, .empty, [], cache⟩) (shared : Option Nat) :
    (w.addCompiler compiler shared).2.Upholds P Q := by
  cases shared with
  | some i => exact hw.addStation (hnew i)
  | none => exact hw.addCache.addStation (hnew _)

omit [DecidableEq ι] in
lemma Upholds.clearCache (hw : w.Upholds P Q) (i : Nat) : (w.clearCache i).Upholds P Q := by
  refine ⟨?_, hw.stations⟩
  intro c hc
  obtain ⟨k, hk⟩ := List.mem_iff_getElem?.mp hc
  rw [Workshop.clearCache, List.getElem?_modify] at hk
  obtain ⟨c', hc', rfl⟩ := Option.map_eq_some_iff.mp hk
  split_ifs
  · exact Store.all_empty
  · exact hw.caches c' (List.mem_of_getElem? hc')

omit [DecidableEq ι] in
lemma Upholds.putBack (hw : w.Upholds P Q) (i : Nat) {b : Bench ι} (hb : Q b.station) :
    (w.putBack i b).Upholds P Q := by
  refine ⟨hw.caches, ?_⟩
  intro st hst
  rcases List.mem_or_eq_of_mem_set hst with hst | rfl
  · exact hw.stations st hst
  · exact hb

omit [DecidableEq ι] in
lemma Upholds.setCache (hw : w.Upholds P Q) (i : Nat) {c : DispatcherCache ι}
    (hc : c.store.All P) : ({ w with caches := w.caches.set i c } : Workshop ι).Upholds P Q := by
  refine ⟨?_, hw.stations⟩
  intro c' hc'
  rcases List.mem_or_eq_of_mem_set hc' with hc' | rfl
  · exact hw.caches c' hc'
  · exact hc

omit [DecidableEq ι] in
lemma Meets.of_putBack {i : Nat} {st : Station ι} (hst : w.stations[i]? = some st) {b : Bench ι}
    (h : (w.putBack i b).Meets A) : A b.station := by
  refine h b.station (List.mem_of_getElem? (List.getElem?_set_self ?_))
  exact (List.getElem?_eq_some_iff.mp hst).1

/-- An answer to an order: the properties still hold, and the dispatcher, if there is one, could be
cached. -/
structure Answers (P : CacheProperty ι) (Q : Station ι → Prop) (j : Job ι)
    (a : Answer ι j.key.Item) : Prop where
  upholds : a.workshop.Upholds P Q
  property : ∀ d, a.result = .ok d → P j.key d

omit [DecidableEq ι] in
lemma Upholds.compileUncached (hw : w.Upholds P Q) (hj : j.Upholds A P Q) {i : Nat}
    (h : w.compileUncached i j = some a) (ha : a.workshop.Meets A) : Answers P Q j a := by
  obtain ⟨st, hst, rfl⟩ := Option.map_eq_some_iff.mp h
  obtain ⟨hb, hproperty⟩ :=
    hj (w.bench st) (hw.stations st (List.mem_of_getElem? hst)) (ha.of_putBack hst)
  exact ⟨hw.putBack i hb, hproperty⟩

lemma Upholds.findOrCompile (hw : w.Upholds P Q) (hj : j.Upholds A P Q) {c i : Nat}
    (h : w.findOrCompile c i j (Bench.compile j) = some a) (ha : a.workshop.Meets A) :
    Answers P Q j a := by
  obtain ⟨st, cache, hst, hcache, hresult, hworkshop⟩ := findOrCompile_eq_some h
  rw [hworkshop] at ha
  have hQ : Q (w.bench st).station := hw.stations st (List.mem_of_getElem? hst)
  let make := Bench.publishing j.model.fingerprint (Bench.compile j)
  have hmade : cache.find? j.key = none →
      Q (make (w.bench st)).2.station ∧ ∀ d, (make (w.bench st)).1 = .ok d → P j.key d := by
    intro hnone
    have hA := Meets.of_putBack (A := A) hst ha
    rw [Cache.world_of_findOrMake hnone] at hA
    simp only [make, Bench.publishing_station, Bench.publishing_fst] at hA ⊢
    exact hj (w.bench st) hQ hA
  -- the cache may hold a dispatcher for another model, but under the key of this one
  obtain ⟨hcache', hb', hfound⟩ := Cache.findOrMake_all (Q := fun b : Bench ι => Q b.station)
    (hw.caches cache (List.mem_of_getElem? hcache)) hmade hQ
  refine ⟨?_, fun d hd => hfound d (hresult ▸ hd)⟩
  rw [hworkshop]
  exact (hw.putBack i hb').setCache c hcache'

/-- Whichever way it is asked, a workshop answers with what could be cached. -/
lemma Upholds.fulfil (hw : w.Upholds P Q) (hj : j.Upholds A P Q) (h : w.fulfil j o = some a)
    (ha : a.workshop.Meets A) : Answers P Q j a := by
  cases o with
  | compile i =>
    rcases compile_eq_some h with ⟨e, hresult, hsame⟩ | ⟨st, -, h⟩
    · refine ⟨hsame ▸ hw, fun d hd => ?_⟩
      rw [hresult] at hd
      cases hd
    · exact hw.findOrCompile hj h ha
  | compileUncached i => exact hw.compileUncached hj h ha
  | findOrCompile c i => exact hw.findOrCompile hj h ha

lemma Upholds.perform (hw : w.Upholds P Q)
    (hnew : ∀ compiler cache, Q ⟨compiler, .empty, [], cache⟩) {r : Request ι}
    (hr : ∀ o j, r = .order o j → j.Upholds A P Q) (hA : (w.perform r).Meets A) :
    (w.perform r).Upholds P Q := by
  cases r with
  | addCache => exact hw.addCache
  | addCompiler compiler shared => exact hw.addCompiler (hnew compiler) shared
  | clearCache c => exact hw.clearCache c
  | order o j =>
    cases h : w.fulfil j o with
    | none =>
      rw [Workshop.perform, h]
      exact hw
    | some a =>
      rw [perform_of_fulfil h] at hA ⊢
      exact (hw.fulfil (hr o j rfl) h hA).upholds

/-- What new compilers and the ordered models uphold, a workshop upholds after the requests. -/
lemma upholds_after (hA : Hereditary A) (hnew : ∀ compiler cache, Q ⟨compiler, .empty, [], cache⟩)
    {rs : List (Request ι)} (hrs : OnlyOrders (fun j => j.Upholds A P Q) rs)
    (hend : (after rs).Meets A) : (after rs).Upholds P Q := by
  induction rs using List.reverseRecOn with
  | nil => exact upholds_empty
  | append_singleton rs r ih =>
    rw [after_append_singleton] at hend ⊢
    have hw := ih (fun o j hmem => hrs o j (List.mem_append_left _ hmem)) (hend.of_perform hA)
    refine hw.perform hnew ?_ hend
    rintro o j rfl
    exact hrs o j (by simp)

/-- What an order is answered with after requests. -/
lemma answers_after (hA : Hereditary A) (hnew : ∀ compiler cache, Q ⟨compiler, .empty, [], cache⟩)
    {rs : List (Request ι)} (hrs : OnlyOrders (fun j => j.Upholds A P Q) rs)
    (hj : j.Upholds A P Q) (h : (after rs).fulfil j o = some a) (ha : a.workshop.Meets A) :
    Answers P Q j a := by
  refine (upholds_after hA hnew hrs ?_).fulfil hj h ha
  rw [← perform_of_fulfil h] at ha
  exact ha.of_perform hA

/-- A compiler with a cache answers an order for a model that it can plan. -/
lemma exists_fulfil_compile {i : Nat} {st : Station ι} (hst : w.stations[i]? = some st)
    {c : DispatcherCache ι} (hc : w.caches[st.cache]? = some c)
    {r : Numbering (Carrier j.labels) × Plan j.symbols.kind}
    (hplan : (st.compiler.plan j.model).result = .ok r) :
    ∃ a d, w.fulfil j (.compile i) = some a ∧ a.result = .ok d := by
  have hkind : st.compiler.checkKind j.symbols.kind = .ok () := by
    obtain ⟨u, hu, -⟩ := Logged.bind_eq_ok.mp hplan
    exact hu
  obtain ⟨d, hd⟩ := Bench.exists_compile (b := w.bench st) hplan
  obtain ⟨d', hd'⟩ := c.exists_findOrMake j.key
    ((Bench.publishing_fst j.model.fingerprint _ _).trans hd)
  simp only [fulfil, compile, Workshop.findOrCompile, hst, hc, hkind, Option.bind_eq_bind,
    Option.bind_some]
  exact ⟨_, d', rfl, hd'⟩

/-- Making a dispatcher anew succeeds for a model that the compiler can plan. -/
lemma exists_fulfil_compileUncached {i : Nat} {st : Station ι} (hst : w.stations[i]? = some st)
    {r : Numbering (Carrier j.labels) × Plan j.symbols.kind}
    (hplan : (st.compiler.plan j.model).result = .ok r) :
    ∃ a d, w.fulfil j (.compileUncached i) = some a ∧ a.result = .ok d := by
  obtain ⟨d, hd⟩ := Bench.exists_compile (b := w.bench st) hplan
  exact ⟨_, d, by rw [fulfil, Workshop.compileUncached, hst]; rfl, hd⟩

end Workshop

end StateMachine
