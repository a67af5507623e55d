import StateMachine.Draft

/-!
# Building models

The checks that turn a draft into a model, in the order in which they are reported: both ends are
set; then, source by source, at most one unconditional edge, well-formed guards, ranges that do not
overlap and explicit symbols with one target; then every declared state can be reached.
-/

namespace StateMachine

variable {σ : Type} {k : Kind}

/-! ### Edges -/

/-- Whether two ranges have a symbol in common, by the start of either lying in the other. -/
def overlap (a b : Symbol k × Symbol k) : Bool :=
  a.1.within b.1 b.2 || b.1.within a.1 a.2

/-- What earlier edges of a source have taken: ranges, and explicit symbols with their targets, in
buckets by hash. -/
structure Claims (σ : Type) (k : Kind) where
  ranges : List (Symbol k × Symbol k)
  buckets : Assoc Int32 (List (Symbol k × σ))

namespace Claims

def empty : Claims σ k := ⟨[], .empty⟩

def bucket (c : Claims σ k) (hash : Int32) : List (Symbol k × σ) :=
  (c.buckets.find? hash).getD []

def takeRange (c : Claims σ k) (a b : Symbol k) : Claims σ k :=
  { c with ranges := c.ranges ++ [(a, b)] }

def take (c : Claims σ k) (v : Symbol k) (t : σ) : Claims σ k :=
  { c with buckets := (c.buckets.ensure v.hash []).update v.hash (· ++ [(v, t)]) }

/-- Claims explicit symbols for a target; fails at the first one that leads elsewhere. -/
def claim [DecidableEq σ] (c : Claims σ k) (t : σ) :
    List (Symbol k) → Except (Symbol k) (Claims σ k)
  | [] => .ok c
  | v :: vs =>
    if (c.bucket v.hash).any (fun p => p.1.same v && p.2 ≠ t) then .error v
    else claim (c.take v t) t vs

end Claims

/-- The first fault among conditional edges, given what earlier edges have taken. -/
def edgeFault? [DecidableEq σ] [Label σ] (source : σ) :
    Claims σ k → List (Edge σ k) → Option ModelError
  | _, [] => none
  | c, e :: es =>
    match e.guard.fault? with
    | some fault => some fault
    | none =>
      match e.guard with
      | .range a b =>
        match c.ranges.find? (overlap (a, b)) with
        | some r =>
          some (.ambiguousToken (Label.text source)
            (e.guard.display ++ " and " ++ r.1.text ++ "..=" ++ r.2.text))
        | none => edgeFault? source (c.takeRange a b) es
      | g =>
        match c.claim e.target g.values with
        | .error v => some (.ambiguousToken (Label.text source) v.text)
        | .ok c' => edgeFault? source c' es

def Edges.fault? [DecidableEq σ] [Label σ] (source : σ) (e : Edges σ k) : Option ModelError :=
  if 1 < e.unconditional.length then some (.duplicateUnconditional (Label.text source))
  else edgeFault? source .empty e.conditional

/-! ### Reachability -/

/-- The states that `next` leads to from `seen` and that were not seen before. -/
def frontier [DecidableEq σ] (next : σ → List σ) (seen : List σ) : List σ :=
  ((seen.flatMap next).filter (fun s => s ∉ seen)).eraseDups

/-- The states found by following `next` from `seen` for at most `fuel` rounds. -/
def explore [DecidableEq σ] (next : σ → List σ) : Nat → List σ → List σ
  | 0, seen => seen
  | fuel + 1, seen =>
    let fresh := frontier next seen
    if fresh.isEmpty then seen else explore next fuel (seen ++ fresh)

namespace Draft

variable [DecidableEq σ]

/-- The sources with their edges: the initial state, if it is set, and then the declared ones. -/
def sources (d : Draft σ k) : List (σ × Edges σ k) :=
  (d.init.toList ++ d.states).filterMap (fun s => (d.edges.find? s).map (s, ·))

def successors (d : Draft σ k) (s : σ) : List σ :=
  match d.edges.find? s with
  | some e => e.targets.filter (fun t => t ∈ d.states)
  | none => []

/-- The states that can be reached from `start`. Each round finds a new state or ends, so there
are no more rounds than declared states. -/
def reached (d : Draft σ k) (start : σ) : List σ :=
  explore d.successors (d.states.length + 1) [start]

def unreached (d : Draft σ k) (start : σ) : List σ :=
  let seen := d.reached start
  d.states.filter (fun s => s ∉ seen)

variable [Label σ]

/-- Fails at the first state that cannot be reached, or logs all of them if that is allowed. -/
def checkReachability (d : Draft σ k) (start : σ) : Logged Error Unit :=
  if d.allowUnreachable then
    ⟨(d.unreached start).map (fun s => .unreachable (Label.text s)), .ok ()⟩
  else
    match d.unreached start with
    | [] => pure ()
    | s :: _ => .fail (.invalidModel (.unreachableState (Label.text s)))

def freeze (d : Draft σ k) (s : σ) : State σ k :=
  match d.edges.find? s with
  | some e => ⟨s, e.conditional, e.unconditional.head?⟩
  | none => ⟨s, [], none⟩

/-- The model that a draft describes, if it is valid. -/
def build (d : Draft σ k) : Logged Error (Model σ k) :=
  match d.init, d.exit with
  | none, _ => .fail (.invalidModel .missingInit)
  | some _, none => .fail (.invalidModel .missingExit)
  | some start, some exit =>
    if start = exit then .fail (.invalidModel .initIsExit)
    else
      match d.sources.findSome? (fun p => p.2.fault? p.1) with
      | some fault => .fail (.invalidModel fault)
      | none => do
        d.checkReachability start
        let model : Model σ k := ⟨d.freeze start, exit, d.states.map d.freeze⟩
        Logged.emit (.built model.stateCount model.fingerprint)
        pure model

/-- The draft that a build leaves behind: an empty one after a success, else the same. -/
def afterBuild (d : Draft σ k) : Draft σ k :=
  match d.build.result with
  | .ok _ => .empty
  | .error _ => d

end Draft

end StateMachine
