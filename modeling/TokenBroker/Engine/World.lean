import TokenBroker.Engine.Phase

/-!
# Running the engine

A `World` is what surrounds an engine: a clock, a transport and plug-ins that answer the n-th
request, and a store that may be in trouble. It supplies what a step asks for and keeps what a step
leaves behind. `World.resolve` runs one call to its end; `World.resolveTogether` starts several
calls and lets no exchange be answered before all have started.
-/

namespace TokenBroker

/-- A reply, and how long the clock moves on before it arrives, in microseconds. -/
structure Delivery where
  reply : Reply
  elapsed : Int := 0

/-- The troubles of a store: the faults its calls end with, and the number of loads that find
nothing. -/
structure StoreTrouble where
  load : Option Fault := none
  save : Option Fault := none
  remove : Option Fault := none
  hidden : Nat := 0

/-- How a clock moves with its readings: what it shows after the n-th of them, counted from zero,
given what it has shown. -/
structure Pace where
  next : Nat → DateTime → DateTime

/-- The pace of a clock that moves on by the same number of microseconds with every reading, and
stays where it is at the end of the calendar. -/
def Pace.steady (micros : Int) : Pace where
  next _ t := (t.shift? micros).getD t

instance : Coe Int Pace where
  coe := .steady

/-- The surroundings of an engine and what has happened in them. -/
structure World where
  clock : DateTime
  tick : Pace := .steady 0
  /-- How often the clock has been read so far. -/
  readings : Nat := 0
  /-- The reply to the n-th request, counted from zero. -/
  transport : Nat → Delivery
  /-- The response of a plug-in to its n-th call, counted from zero. -/
  plugin : Nat → Nat → Except Fault TokenResponse := fun _ _ => .error .interrupted
  trouble : StoreTrouble := {}
  shared : Engine.Shared
  /-- The requests sent so far. -/
  sent : List HttpRequest := []
  /-- The plug-ins called so far. -/
  asked : List Nat := []
  log : List LogEntry := []

namespace World

/-- Moves the clock; it stays where it is at the end of the calendar. -/
def advance (w : World) (micros : Int) : World :=
  { w with clock := (w.clock.shift? micros).getD w.clock }

/-- Moves the clock as it does after a reading. -/
def tickOn (w : World) : World :=
  { w with clock := w.tick.next w.readings w.clock, readings := w.readings + 1 }

/-- What the next step of a phase asks of the world. -/
inductive Need
  | nothing
  | load
  | save
  | remove
  | clock
  | ticket
  | reply (ticket : Nat)
  | response (plugin ticket : Nat)

/-- What the next step of a phase asks of the world. -/
def needOf : Engine.Phase → Need
  | .loading _ => .load
  | .reloading .. => .load
  | .judging .. => .clock
  | .rejudging .. => .clock
  | .stamping .. => .clock
  | .sending .. => .ticket
  | .receiving _ _ _ (.post ..) ticket => .reply ticket
  | .receiving _ _ _ (.ask number) ticket => .response number ticket
  | .dropping .. => .remove
  | .saving .. => .save
  | _ => .nothing

/-- How often a plug-in has been called. -/
def callsOf (w : World) (number : Nat) : Nat := w.asked.count number

/-- The contribution to a step, and the world after it has been taken. -/
def supply (w : World) : Need → Engine.Surroundings × World
  | .nothing => ({ now := w.clock }, w)
  | .load =>
    match w.trouble.load with
    | some fault => ({ now := w.clock, storeFault := some fault }, w)
    | none =>
      if w.trouble.hidden = 0 then ({ now := w.clock }, w)
      else
        ({ now := w.clock, hidden := true },
          { w with trouble := { w.trouble with hidden := w.trouble.hidden - 1 } })
  | .save => ({ now := w.clock, storeFault := w.trouble.save }, w)
  | .remove => ({ now := w.clock, storeFault := w.trouble.remove }, w)
  | .clock => ({ now := w.clock }, w.tickOn)
  | .ticket => ({ now := w.clock, requestTicket := w.sent.length, pluginTicket := w.callsOf }, w)
  | .reply ticket =>
    let delivery := w.transport ticket
    ({ now := w.clock, reply := delivery.reply }, w.advance delivery.elapsed)
  | .response number ticket => ({ now := w.clock, response := w.plugin number ticket }, w)

/-- Notes what the exchange of a phase has just sent. -/
def note (w : World) : Engine.Phase → World
  | .receiving _ _ _ (.post http _) _ => { w with sent := w.sent ++ [http] }
  | .receiving _ _ _ (.ask number) _ => { w with asked := w.asked ++ [number] }
  | _ => w

/-- The next step of a call, if it has one. -/
def step (w : World) (e : Engine) (key : Key) (p : Engine.Phase) : Option (World × Engine.Phase) :=
  let (env, w) := w.supply (needOf p)
  match e.step key env w.shared p with
  | none => none
  | some next =>
    some ({ w with shared := next.shared, log := w.log ++ next.log }.note next.phase, next.phase)

/-- Takes steps until the call ends, has to wait or reaches a phase where `hold` holds; at most
`fuel`. -/
def run (w : World) (e : Engine) (key : Key) (hold : Engine.Phase → Bool) :
    Nat → Engine.Phase → World × Engine.Phase
  | 0, p => (w, p)
  | fuel + 1, p =>
    if hold p then (w, p)
    else
      match w.step e key p with
      | none => (w, p)
      | some (w, p) => w.run e key hold fuel p

/-- Takes steps until the call ends or has to wait. -/
def runOut (w : World) (e : Engine) (key : Key) (p : Engine.Phase) : World × Engine.Phase :=
  w.run e key (fun _ => false) p.rank p

/-- The outcome of a call that runs alone. -/
def resolve (w : World) (e : Engine) (key : Key) : World × Option Outcome :=
  let (w, p) := w.runOut e key (e.start key)
  (w, p.outcome?)

/-- Removes the stored client of a key. -/
def evict (w : World) (key : Key) : World × Except Fault Unit :=
  match w.trouble.remove with
  | some fault => (w, .error fault)
  | none => ({ w with shared := { w.shared with store := w.shared.store.remove key } }, .ok ())

/-- Saves a client that was authorized elsewhere. -/
def save (w : World) (c : AuthorizedClient) : World × Except Fault Unit :=
  match w.trouble.save with
  | some fault => (w, .error fault)
  | none => ({ w with shared := { w.shared with store := w.shared.store.save c } }, .ok ())

/-- The number of keys in flight. -/
def inFlight (w : World) : Nat := w.shared.inFlight.length

/-! ## Calls side by side -/

/-- What a call does while others run. -/
inductive Role
  /-- It makes the exchange of its key. -/
  | leader
  /-- It waits for the exchange of the call with an index. -/
  | waiter (leader : Nat)
  /-- Neither. -/
  | done
  deriving DecidableEq, Repr

/-- Whether a call is inside a request to a token endpoint. -/
def isPosting : Engine.Phase → Bool
  | .receiving _ _ _ (.post ..) _ => true
  | _ => false

/-- Starts calls one after another, each as far as it goes without an answer. -/
def startAll (w : World) (e : Engine) : List Key → World × List (Key × Engine.Phase)
  | [] => (w, [])
  | key :: keys =>
    let p := e.start key
    let (w, p) := w.run e key isPosting p.rank p
    let (w, calls) := w.startAll e keys
    (w, (key, p) :: calls)

/-- Lets calls run on, one after another. -/
def finishAll (w : World) (e : Engine) :
    List (Key × Engine.Phase) → World × List (Option Outcome)
  | [] => (w, [])
  | (key, p) :: calls =>
    let (w, p) := w.runOut e key p
    let (w, outcomes) := w.finishAll e calls
    (w, p.outcome? :: outcomes)

/-- The role of a call among calls that have started. -/
def roleOf (phases : List Engine.Phase) : Engine.Phase → Role
  | .waiting attempt => .waiter (phases.findIdx fun p => p.leads? = some attempt)
  | p => if p.leads?.isSome then .leader else .done

/-- Several calls side by side: the role and outcome of each, and the number of keys in flight when
all had started. -/
structure Together where
  inFlight : Nat
  calls : List (Role × Option Outcome)

/-- Runs calls side by side. -/
def resolveTogether (w : World) (e : Engine) (keys : List Key) : World × Together :=
  let (w, calls) := w.startAll e keys
  let phases := calls.map (·.2)
  let during := w.inFlight
  let (w, outcomes) := w.finishAll e calls
  (w, ⟨during, (phases.map (roleOf phases)).zip outcomes⟩)

end World

end TokenBroker
