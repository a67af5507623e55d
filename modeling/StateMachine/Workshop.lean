import StateMachine.Cache
import StateMachine.Machine

/-!
# Workshops

Several compilers work side by side, each with its own loader of routines and with a cache that it
may share with others. Models of different label and symbol types live in one workshop, so caches
and loaders are keyed by types as well as by fingerprints and names. Dispatchers and routines get
serial numbers: two are one and the same exactly if their serial numbers agree.
-/

namespace StateMachine

open LabelTypes (Carrier)

/-- The types of symbols that can live side by side in one workshop. Slices of text are a type of
their own, with symbols of the same kind as texts. -/
inductive SymbolType
  | plain (kind : Kind)
  | slice
  deriving DecidableEq

def SymbolType.kind : SymbolType → Kind
  | .plain k => k
  | .slice => .str

variable {ι : Type} [LabelTypes ι]

structure Job (ι : Type) [LabelTypes ι] where
  labels : ι
  symbols : SymbolType
  model : Model (Carrier labels) symbols.kind

/-- Labels of some type, by number. -/
structure LabelList (ι : Type) [LabelTypes ι] where
  type : ι
  values : List (Carrier type)

/-- What a routine is made for. Models with the same fingerprint may number their states
differently, so the labels by number are part of it. -/
structure RoutineOrigin (ι : Type) [LabelTypes ι] where
  fingerprint : String
  labels : LabelList ι
  strategy : Strategy
  maxDelta : UInt32

/-- The name of a routine. It is written as sixteen hexadecimal digits, the strategy and the largest
span, so it can be told from others by these three, and by nothing else. -/
structure RoutineName where
  digest : UInt64
  strategy : Strategy
  maxDelta : UInt32
  deriving DecidableEq

/-- The name with a star in place of the digits. -/
def RoutineName.masked (n : RoutineName) : String :=
  "Machine*" ++ n.strategy.name ++ toString n.maxDelta.toNat

/-- The name under which a routine is asked for. -/
def RoutineOrigin.name (o : RoutineOrigin ι) : RoutineName :=
  ⟨LabelTypes.digest o.labels.type o.fingerprint o.labels.values, o.strategy, o.maxDelta⟩

/-- Under what a routine is loaded. The type of the labels is not part of it. -/
structure RoutineKey where
  symbols : SymbolType
  name : RoutineName
  deriving DecidableEq

structure LoadedPlan (k : Kind) where
  serial : Nat
  plan : Plan k

structure Issued (σ : Type) (k : Kind) where
  serial : Nat
  routineSerial : Nat
  dispatcher : Dispatcher σ k

/-- Under what a dispatcher is cached. -/
structure CacheKey (ι : Type) where
  labels : ι
  symbols : SymbolType
  fingerprint : String
  deriving DecidableEq

abbrev CacheKey.Item (key : CacheKey ι) : Type := Issued (Carrier key.labels) key.symbols.kind

abbrev Job.key (j : Job ι) : CacheKey ι := ⟨j.labels, j.symbols, j.model.fingerprint⟩

abbrev DispatcherCache (ι : Type) [LabelTypes ι] := Cache (CacheKey ι) CacheKey.Item

/-- A compiler with its loader and a reference to its cache. -/
structure Station (ι : Type) [LabelTypes ι] where
  compiler : Compiler
  loader : Loader RoutineKey (fun key => LoadedPlan key.symbols.kind)
  /-- What the backend was asked for, in order. -/
  requests : List (SymbolType × RoutineOrigin ι)
  /-- The place of the cache in the workshop. -/
  cache : Nat

/-- What compiling without a cache may change. -/
structure Bench (ι : Type) [LabelTypes ι] where
  station : Station ι
  /-- The next serial number. -/
  serial : Nat
  log : List Event

structure Workshop (ι : Type) [LabelTypes ι] where
  stations : List (Station ι)
  caches : List (DispatcherCache ι)
  serial : Nat

namespace Bench

/-- What the routine for a model and its numbering is made for. -/
def origin (b : Bench ι) (j : Job ι) (n : Numbering (Carrier j.labels)) : RoutineOrigin ι :=
  let config := b.station.compiler.config
  ⟨j.model.fingerprint, ⟨j.labels, n.values⟩, config.strategy, config.maxDelta⟩

/-- Makes a plan into a routine under the name of its origin; a routine of that name is used again,
whatever it was made for. -/
def load (s : SymbolType) (origin : RoutineOrigin ι) (plan : Plan s.kind) (b : Bench ι) :
    LoadedPlan s.kind × Bench ι :=
  let station := { b.station with requests := b.station.requests ++ [(s, origin)] }
  let key : RoutineKey := ⟨s, origin.name⟩
  match station.loader.find? key with
  | some routine => (routine, { b with station := station })
  | none =>
    let routine : LoadedPlan s.kind := ⟨b.serial, plan⟩
    (routine,
      { station := { station with loader := station.loader.insertNew key routine }
        serial := b.serial + 1
        log := b.log ++ [.loading origin.name.masked plan.branches.length] })

/-- Compiles a model without looking into a cache. -/
def compile (j : Job ι) (b : Bench ι) : Except Error j.key.Item × Bench ι :=
  let planned := b.station.compiler.plan j.model
  let b := { b with log := b.log ++ planned.log }
  match planned.result with
  | .error e => (.error e, b)
  | .ok (n, plan) =>
    let origin := b.origin j n
    let (routine, b) := b.load j.symbols origin plan
    let dispatcher := ⟨routine.plan.transit, n, some j.model.fingerprint⟩
    (.ok ⟨b.serial, routine.serial, dispatcher⟩,
      { b with
        serial := b.serial + 1
        log := b.log ++ [.compiled origin.name.masked n.size j.symbols.kind] })

def refuse {α : Type} (message : String) (b : Bench ι) : Except Error α × Bench ι :=
  (.error (.compilation (.reported message)), b)

/-- Reports the publication of whatever is made. -/
def publishing {α : Type} (fingerprint : String) (make : Bench ι → Except Error α × Bench ι)
    (b : Bench ι) : Except Error α × Bench ι :=
  match make b with
  | (.ok a, b') => (.ok a, { b' with log := b'.log ++ [.published fingerprint] })
  | (.error e, b') => (.error e, b')

end Bench

/-- The answer of an operation, with what was logged. -/
structure Answer (ι : Type) [LabelTypes ι] (α : Type) where
  result : Except Error α
  log : List Event
  workshop : Workshop ι

namespace Workshop

def empty : Workshop ι := ⟨[], [], 0⟩

def addCache (w : Workshop ι) : Nat × Workshop ι :=
  (w.caches.length, { w with caches := w.caches ++ [.empty] })

/-- Adds a compiler, and says where it is. Without a shared cache it gets one of its own. -/
def addCompiler (w : Workshop ι) (compiler : Compiler) (shared : Option Nat) : Nat × Workshop ι :=
  let (cache, w) :=
    match shared with
    | some i => (i, w)
    | none => w.addCache
  (w.stations.length, { w with stations := w.stations ++ [⟨compiler, .empty, [], cache⟩] })

def takeSerial (w : Workshop ι) : Nat × Workshop ι := (w.serial, { w with serial := w.serial + 1 })

/-- Hands out a dispatcher with a routine of its own. -/
def issue {σ : Type} {k : Kind} (w : Workshop ι) (d : Dispatcher σ k) : Issued σ k × Workshop ι :=
  let (routine, w) := w.takeSerial
  let (serial, w) := w.takeSerial
  (⟨serial, routine, d⟩, w)

def bench (w : Workshop ι) (station : Station ι) : Bench ι := ⟨station, w.serial, []⟩

def putBack (w : Workshop ι) (i : Nat) (b : Bench ι) : Workshop ι :=
  { w with stations := w.stations.set i b.station, serial := b.serial }

def clearCache (w : Workshop ι) (i : Nat) : Workshop ι :=
  { w with caches := w.caches.modify i .clear }

def plan (w : Workshop ι) (i : Nat) (j : Job ι) :
    Option (Logged Error (Numbering (Carrier j.labels) × Plan j.symbols.kind)) :=
  w.stations[i]?.map (fun station => station.compiler.plan j.model)

/-- Compiles a model without looking into a cache. -/
def compileUncached (w : Workshop ι) (i : Nat) (j : Job ι) : Option (Answer ι j.key.Item) :=
  w.stations[i]?.map (fun station =>
    let (result, b) := (w.bench station).compile j
    ⟨result, b.log, w.putBack i b⟩)

variable [DecidableEq ι]

def cached (w : Workshop ι) (i : Nat) (j : Job ι) : Option j.key.Item := do
  let cache ← w.caches[i]?
  cache.find? j.key

/-- Takes the dispatcher of a model from a cache, or lets a compiler make it. -/
def findOrCompile (w : Workshop ι) (cacheId i : Nat) (j : Job ι)
    (make : Bench ι → Except Error j.key.Item × Bench ι) : Option (Answer ι j.key.Item) := do
  let station ← w.stations[i]?
  let cache ← w.caches[cacheId]?
  let (result, cache, b) :=
    cache.findOrMake j.key (Bench.publishing j.model.fingerprint make) (w.bench station)
  let w := w.putBack i b
  some ⟨result, b.log, { w with caches := w.caches.set cacheId cache }⟩

/-- Compiles a model with the cache of the compiler. A kind that is not supported is refused before
the cache is asked. -/
def compile (w : Workshop ι) (i : Nat) (j : Job ι) : Option (Answer ι j.key.Item) := do
  let station ← w.stations[i]?
  match station.compiler.checkKind j.symbols.kind with
  | .error e => some ⟨.error e, [], w⟩
  | .ok () => w.findOrCompile station.cache i j (Bench.compile j)

end Workshop

end StateMachine
