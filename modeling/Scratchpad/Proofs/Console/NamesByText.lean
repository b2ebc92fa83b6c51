import Scratchpad.Proofs.Console.Spelling
import Scratchpad.Proofs.Eval.SampleSimulation
import Scratchpad.Proofs.Eval.StatementSimulation

/-! Names matter only by their texts. Two consoles whose tables have different pasts run one program
alike: step by step they hold alike states, and the clients are told alike events.
-/

namespace Scratchpad

variable {ω : Type}

/-- Delivered lines leave the world as it is. -/
theorem Machine.world_deliverAll (m : Machine ω) (lines : List OutputLine) (state : State ω)
    : (lines.foldl m.deliver state).world = state.world := by
  induction lines generalizing state with
  | nil => rfl
  | cons line rest ih => exact ih (m.deliver state line)

/-- The same is told of the same statement. The heap that comes with a result may differ in what
counts as the same.
-/
inductive Likeness.Events (l : Likeness) : Event ω → Event ω → Prop
  | result {index value heap heap' world} (alike : l.Heaps heap heap')
    : l.Events (.result index value heap world) (.result index value heap' world)
  | failed {index error} : l.Events (.failed index error) (.failed index error)
  | skipped {index errors} : l.Events (.skipped index errors) (.skipped index errors)
  | line {line} : l.Events (.line line) (.line line)

/-- Printed lines are alike if they are the same. -/
theorem Likeness.events_lines {l : Likeness} {events events' : List (Event ω)}
    (alike : List.Forall₂ l.Events events events') (lines : List OutputLine)
    : List.Forall₂ l.Events (lines.map .line ++ events) (lines.map .line ++ events') := by
  induction lines with
  | nil => exact alike
  | cons line rest ih => exact .cons .line ih

-----------------------------------------------------------------------------------------
-- Machines over two tables
-----------------------------------------------------------------------------------------

namespace Correspondence

/-- Two runs in one world, of programs whose names stand for the same texts. -/
def byText (t : Tables) : Correspondence ω ω where
  toLikeness := t.likeness
  Worlds := fun world world' => world' = world
  Stops := fun world world' stop stop' => world' = world ∧ stop' = stop

/-- Noting a span keeps stops alike, as they are the same on both sides. -/
theorem byText_places (t : Tables) : (byText t : Correspondence ω ω).Places := by
  intro span span' world world' stop stop' same stops
  obtain rfl : span' = span := same
  exact ⟨stops.1, congrArg (Stop.withSpan span') stops.2⟩

/-- Running out of fuel is the same on both sides. -/
theorem byText_spent {t : Tables} {world world' : ω} (same : (byText t).Worlds world world')
    : (byText t).Stops world world' .outOfFuel .outOfFuel :=
  ⟨same, rfl⟩

end Correspondence

/-- A host that acts the same on heaps whose lambdas differ in raw names only. -/
def Host.IgnoresNames (host : Host ω) : Prop :=
  ∀ t : Tables, (Correspondence.byText t).Hosts host host

/-- The sample host does not look into lambdas at all. -/
theorem SampleHost.ignoresNames : SampleHost.host.IgnoresNames :=
  fun _ => SampleHost.hosts Iff.rfl

namespace Tables

variable {t : Tables}

/-- Machines over two tables read alike names as the same texts, and agree in everything else.
Witness: declarations of alike names read alike, and the host is told texts only.
-/
theorem machines {m m' : Machine ω} (names : m.names = t.first) (names' : m'.names = t.second)
    (limits : m'.limits = m.limits) (observer : m'.observer = m.observer)
    (host : m'.host = m.host) (ignores : m.host.IgnoresNames)
    : (Correspondence.byText t).Machines m m' := by
  have reads (name name' : Name) (same : t.likeness.Names name name')
      : m'.names.text name' = m.names.text name := by
    rw [names, names']
    exact same.text
  exact
    {
      faithful := t.faithful
      text := fun same => reads _ _ same
      literal := fun same => by
        cases same with
        | str same => exact congrArg Value.str (reads _ _ same)
        | _ => rfl
      type := fun same => same.map_eq reads
      decl := fun same => same.readsAlike reads
      limits
      observer
      host := host ▸ ignores t
      fails := fun _ _ _ same => ⟨same, rfl⟩
      dangles := fun same => ⟨same, rfl⟩
    }

-----------------------------------------------------------------------------------------
-- Sessions
-----------------------------------------------------------------------------------------

/-- Two consoles that differ in their tables only, and accordingly in raw names. -/
structure Consoles (t : Tables) (console console' : Console ω) : Prop where
  names : console.names = t.first
  names' : console'.names = t.second
  limits : console'.limits = console.limits
  host : console'.host = console.host
  ignores : console.host.IgnoresNames
  context : t.likeness.Contexts console.context console'.context
  heap : t.likeness.Heaps console.heap console'.heap
  world : console'.world = console.world

/-- Clients that answer alike when they are told alike events. -/
def Clients (t : Tables) (client client' : Client ω) : Prop :=
  ∀ told told', List.Forall₂ t.likeness.Events told told' → client' told' = client told

/-- Two sessions in alike states, whose clients have been told alike events. -/
structure Sessions (t : Tables) (session session' : Session ω) : Prop where
  state : (Correspondence.byText t).Related session.state session'.state
  events : List.Forall₂ t.likeness.Events session.events session'.events

variable {console console' : Console ω} {client client' : Client ω}
  {session session' : Session ω}

/-- The machines of alike sessions agree, since alike clients answer alike to alike events. -/
theorem Sessions.machines (sessions : t.Sessions session session')
    (consoles : t.Consoles console console') (clients : t.Clients client client')
    : (Correspondence.byText t).Machines (session.machine console client)
        (session'.machine console' client') := by
  refine Tables.machines consoles.names consoles.names' consoles.limits ?_ consoles.host
    consoles.ignores
  exact funext fun lines => clients _ _ (Likeness.events_lines sessions.events lines)

/-- Reporting alike events keeps sessions alike, since the clients give the same answer. -/
theorem Sessions.report (sessions : t.Sessions session session')
    (clients : t.Clients client client') {event event' : Event ω}
    (alike : t.likeness.Events event event')
    : t.Sessions (session.report client event) (session'.report client' event') := by
  have events := List.Forall₂.cons alike sessions.events
  obtain ⟨context, heap, printout⟩ := sessions.state.toStates
  refine ⟨⟨⟨⟨context.this, context.vars, context.breakPending, ?_⟩, heap, printout⟩,
    sessions.state.world⟩, events⟩
  simp only [Session.report, context.cancelled, clients _ _ events]

/-- Collecting lines keeps sessions alike, since the same lines were printed. -/
theorem Sessions.collectLines (sessions : t.Sessions session session')
    : t.Sessions session.collectLines session'.collectLines := by
  obtain ⟨context, heap, printout⟩ := sessions.state.toStates
  refine ⟨⟨⟨context, heap, ?_⟩, sessions.state.world⟩, ?_⟩
  · simp only [Session.collectLines, printout]
  · simp only [Session.collectLines, printout]
    exact Likeness.events_lines sessions.events _

/-- Dropping a break keeps sessions alike. -/
theorem Sessions.dropBreak (sessions : t.Sessions session session')
    : t.Sessions session.dropBreak session'.dropBreak := by
  obtain ⟨context, heap, printout⟩ := sessions.state.toStates
  exact ⟨⟨⟨⟨context.this, context.vars, rfl, context.cancelled⟩, heap, printout⟩,
    sessions.state.world⟩, sessions.events⟩

/-- Alike machines act alike on the states, and leave the world alone. -/
theorem Sessions.act (sessions : t.Sessions session session')
    {action : Machine ω → State ω → State ω}
    (keeps : ∀ {m state}, (action m state).world = state.world)
    (acts : t.likeness.States (action (session.machine console client) session.state)
      (action (session'.machine console' client') session'.state))
    : t.Sessions (session.act console client action) (session'.act console' client' action) := by
  refine Sessions.collectLines ⟨⟨acts, ?_⟩, sessions.events⟩
  exact keeps.trans (sessions.state.world.trans keeps.symm)

/-- Printing an exception keeps sessions alike. -/
theorem Sessions.reportException (sessions : t.Sessions session session')
    (consoles : t.Consoles console console') (clients : t.Clients client client')
    (error : EvalError)
    : t.Sessions (session.reportException console client error)
        (session'.reportException console' client' error) := by
  unfold Session.reportException
  split
  · refine sessions.act (Machine.world_deliverAll _ _ _) ?_
    exact (sessions.machines consoles clients).print sessions.state.toStates _ _
  · exact sessions

/-- A statement is executed alike: it has the same value or stops the same way.
Witness: the machines of both sessions agree, so that the simulation of statements applies.
-/
theorem Sessions.exec (sessions : t.Sessions session session')
    (consoles : t.Consoles console console') (clients : t.Clients client client')
    {arena arena' : Arena} (alike : t.likeness.Arenas arena arena') (root : StmtId)
    : (session'.evaluate console' client' fun machine => machine.exec arena' root).1
        = (session.evaluate console client fun machine => machine.exec arena root).1
      ∧ t.Sessions (session.evaluate console client fun machine => machine.exec arena root).2
          (session'.evaluate console' client' fun machine => machine.exec arena' root).2 := by
  have outcome :=
    (sessions.machines consoles clients).exec (Correspondence.byText_places t)
      Correspondence.byText_spent alike root _ _ sessions.state
  unfold Session.evaluate
  generalize ((session.machine console client).exec arena root).run session.state = ended
    at outcome
  generalize ((session'.machine console' client').exec arena' root).run session'.state = ended'
    at outcome
  cases outcome with
  | value same related =>
      exact ⟨congrArg Except.ok same, Sessions.collectLines ⟨related, sessions.events⟩⟩
  | stop stops states =>
      have related := Correspondence.Related.mk states stops.1
      exact ⟨congrArg Except.error stops.2, Sessions.collectLines ⟨related, sessions.events⟩⟩

/-- Statements run alike, by induction on them.
Witness: both sides take the same branch, because the flag, the errors and the outcome are the same,
and go on from alike sessions.
-/
theorem Sessions.runFrom (consoles : t.Consoles console console')
    (clients : t.Clients client client') {arena arena' : Arena}
    (alike : t.likeness.Arenas arena arena') (statements : List SourceStatement) (index : Nat)
    (sessions : t.Sessions session session')
    : (Session.runFrom console' client' arena' index statements session').1
        = (Session.runFrom console client arena index statements session).1
      ∧ t.Sessions (Session.runFrom console client arena index statements session).2
          (Session.runFrom console' client' arena' index statements session').2 := by
  induction statements generalizing index session session' with
  | nil => exact ⟨rfl, sessions⟩
  | cons statement rest ih =>
      rw [Session.runFrom, Session.runFrom, sessions.state.context.cancelled]
      split
      · exact ⟨rfl, sessions⟩
      split
      · obtain ⟨same, later⟩ := sessions.exec consoles clients alike statement.root
        generalize (session.evaluate console client
          fun machine => machine.exec arena statement.root) = ran at same later ⊢
        generalize (session'.evaluate console' client'
          fun machine => machine.exec arena' statement.root) = ran' at same later ⊢
        obtain ⟨result, session⟩ := ran
        obtain ⟨result', session'⟩ := ran'
        -- Both results are one, so the sessions go on the same way.
        obtain rfl : result' = result := same
        have later := Sessions.dropBreak later
        cases result' with
        | ok value =>
            refine ih (index + 1) (later.report clients ?_)
            rw [later.state.world]
            exact .result later.state.heap
        | error stop =>
            cases stop with
            | error error =>
                dsimp only
                split
                · exact ⟨rfl, later.report clients .failed⟩
                · have reported := later.reportException consoles clients error
                  exact ⟨rfl, reported.report clients .failed⟩
            | danglingNode => exact ⟨rfl, later⟩
            | outOfFuel => exact ⟨rfl, later⟩
      · exact ih (index + 1) (sessions.report clients .skipped)

-----------------------------------------------------------------------------------------
-- Consoles
-----------------------------------------------------------------------------------------

/-- A session is closed alike: what is left of the output is flushed, and then the console takes the
state.
-/
theorem Consoles.close (consoles : t.Consoles console console')
    (clients : t.Clients client client') (sessions : t.Sessions session session')
    : List.Forall₂ t.likeness.Events (console.close client session).1
        (console'.close client' session').1
      ∧ t.Consoles (console.close client session).2 (console'.close client' session').2 := by
  have flushed
      : t.Sessions (session.act console client fun machine state => machine.flush state)
          (session'.act console' client' fun machine state => machine.flush state) := by
    refine sessions.act (Machine.world_deliverAll _ _ _) ?_
    have machines := sessions.machines consoles clients
    have states := sessions.state.toStates
    simp only [Machine.flush, states.printout]
    refine machines.deliverAll ?_ _
    exact ⟨states.context, states.heap, rfl⟩
  refine ⟨List.rel_reverse flushed.events, ?_⟩
  exact
    {
      consoles with
      context := flushed.state.context
      heap := flushed.state.heap
      world := flushed.state.world
    }

/-- A unit runs alike on both consoles, if its arenas are alike.
Witness: both sessions are opened on alike contexts, run the same statements alike, and are closed.
-/
theorem Consoles.run (consoles : t.Consoles console console')
    (clients : t.Clients client client') {unit unit' : SourceUnit}
    (statements : unit'.statements = unit.statements)
    (alike : t.likeness.Arenas unit.arena unit'.arena)
    : (console'.run client' unit').1 = (console.run client unit).1
      ∧ List.Forall₂ t.likeness.Events (console.run client unit).2.1
          (console'.run client' unit').2.1
      ∧ t.Consoles (console.run client unit).2.2 (console'.run client' unit').2.2 := by
  have opened
      : t.Sessions { state := console.state console.context.reset }
          { state := console'.state console'.context.reset } := by
    refine ⟨⟨⟨⟨consoles.context.this, ?_, rfl, rfl⟩, consoles.heap, rfl⟩, consoles.world⟩, .nil⟩
    exact ⟨.nil, .nil, consoles.context.vars.limit⟩
  obtain ⟨same, ended⟩ := Sessions.runFrom consoles clients alike unit.statements 0 opened
  obtain ⟨events, closed⟩ := consoles.close clients ended
  unfold Console.run
  rw [statements]
  exact ⟨same, events, closed⟩

/-- More names in both tables leave the consoles alike.
Witness: names of the same text keep it in the grown tables, so all that was alike still is.
-/
theorem Consoles.grow {later : Tables} (consoles : t.Consoles console console')
    (grown : t.Grows later)
    : later.Consoles { console with names := later.first }
        { console' with names := later.second } where
  names := rfl
  names' := rfl
  limits := consoles.limits
  host := consoles.host
  ignores := consoles.ignores
  context := grown.le.contexts consoles.context
  heap := grown.le.heaps consoles.heap
  world := consoles.world

/-- A variable is read alike by its text, although the text may be new to the tables. -/
theorem Consoles.readVariable (consoles : t.Consoles console console') (text : String)
    : (console'.readVariable text).1 = (console.readVariable text).1
      ∧ (t.intern text).Consoles (console.readVariable text).2 (console'.readVariable text).2 := by
  have grown := consoles.grow (t.grows_intern text)
  unfold Console.readVariable
  rw [consoles.names, consoles.names']
  exact ⟨(t.intern text).faithful.lookup grown.context.vars (t.sameText_intern text), grown⟩

/-- So it is after any other reads, by induction on them. -/
theorem Consoles.afterReads (consoles : t.Consoles console console') (texts : List String)
    : ∃ later : Tables,
        later.Consoles (console.after (texts.map .read)) (console'.after (texts.map .read)) := by
  induction texts generalizing t console console' with
  | nil => exact ⟨t, consoles⟩
  | cons text rest ih => exact ih (consoles.readVariable text).2

end Tables

namespace Console

/-- Builds a program over the names of a console and runs it there. -/
def submit (console : Console ω) (client : Client ω) (program : List Written.Submission)
    : RunOutcome × List (Event ω) × Console ω :=
  let built := Written.buildUnit console.names program
  { console with names := built.2 }.run client built.1

/-- A console on the sample host, whose table has been filled before. -/
def sampleOver (past : List String) (limits : Limits) (receiver : Value)
    (arrays : Array ArrayObject) (world : SampleHost.World)
    : Console SampleHost.World :=
  fresh (.filled past) SampleHost.host limits receiver { arrays } world

/-- Consoles over two filled tables start alike, since no name is in them yet. -/
theorem sampleOver_alike (past past' : List String) (limits : Limits) (receiver : Value)
    (arrays : Array ArrayObject) (world : SampleHost.World)
    : Tables.Consoles ⟨_, _, Interner.sound_filled past, Interner.sound_filled past'⟩
        (sampleOver past limits receiver arrays world)
        (sampleOver past' limits receiver arrays world) where
  names := rfl
  names' := rfl
  limits := rfl
  host := rfl
  ignores := SampleHost.ignoresNames
  context := ⟨rfl, ⟨.nil, .nil, rfl⟩, rfl, rfl⟩
  heap := ⟨rfl, .nil⟩
  world := rfl

/-- Names matter only by their texts. One program, built and run over two tables that were filled
with any texts before, has the same outcome, with the same error and the same place of it; the
clients are told the same, in the same order and with the same lines between; afterwards every
variable reads the same by its text, whatever was read before; and the worlds and heaps are left
the same. What differs are the raw names inside the lambdas of the heaps, and the clients must
not answer by those.
-/
theorem names_matter_by_text_alone (program : List Written.Submission) (past past' : List String)
    (limits : Limits) (receiver : Value) (arrays : Array ArrayObject) (world : SampleHost.World)
    (client client' : Client SampleHost.World)
    : let alike : Likeness :=
        .byText (Written.buildUnit (.filled past) program).2
          (Written.buildUnit (.filled past') program).2
      let ran := (sampleOver past limits receiver arrays world).submit client program
      let ran' := (sampleOver past' limits receiver arrays world).submit client' program
      (∀ told told', List.Forall₂ alike.Events told told' → client' told' = client told)
      → ran'.1 = ran.1
        ∧ List.Forall₂ alike.Events ran.2.1 ran'.2.1
        ∧ (∀ (texts : List String) (text : String),
            ((ran'.2.2.after (texts.map .read)).readVariable text).1
              = ((ran.2.2.after (texts.map .read)).readVariable text).1)
        ∧ ran'.2.2.world = ran.2.2.world
        ∧ alike.Heaps ran.2.2.heap ran'.2.2.heap := by
  intro alike ran ran' clients
  have fresh := sampleOver_alike past past' limits receiver arrays world
  obtain ⟨t, grown, names, names', statements, arenas⟩ :=
    Written.buildUnit_alike ⟨_, _, Interner.sound_filled past, Interner.sound_filled past'⟩ program
  -- The tables have grown while the program was built, and are fixed while it runs.
  have same : alike = t.likeness := by
    rw [Tables.likeness, ← names, ← names']
  have built := fresh.grow grown
  rw [← names, ← names'] at built
  rw [same] at clients ⊢
  obtain ⟨outcome, events, ended⟩ := built.run clients statements arenas
  refine ⟨outcome, events, fun texts text => ?_, ended.world, ended.heap⟩
  obtain ⟨later, reading⟩ := ended.afterReads texts
  exact (reading.readVariable text).1

/-- The program `int n = 2; IntUnaryOperator f = x -> x * n; n / (f.applyAsInt(21) - 42);`, where
only the quotient has a span.
-/
def tripping : List Written.Submission :=
  [
    { stmt := .varDecl [.mk "n" (some (.literal (.int 2)))] (.primitive .int) },
    {
      stmt :=
        .varDecl
          [
            .mk "f"
              (some
                (.lambda (.expr (.binary .mul (.ident "x") (.ident "n"))) ["x"]
                  (some "java.util.function.IntUnaryOperator")))
          ]
          (.classType "java.util.function.IntUnaryOperator")
    },
    {
      stmt :=
        .expr
          (.noted
            (.binary .div (.ident "n")
              (.binary .sub (.chain [.ident "f", .call [.literal (.int 21)] "applyAsInt"])
                (.literal (.int 42))))
            (some ⟨52, 80⟩) none none)
    }
  ]

/-- A table that has seen `x` before numbers `n` differently. The program trips over its division
all the same, because the lambda still finds `n`, and leaves the same `n`.
-/
theorem tripping_by_text
    : ((Interner.filled ["x", "n"]).intern "n").1 ≠ ((Interner.filled []).intern "n").1
      ∧ ((sampleOver ["x", "n"] {} .null #[] {}).submit (fun _ => false) tripping).1
        = .failed { cause := .divisionByZero, span? := some ⟨52, 80⟩ }
      ∧ (((sampleOver ["x", "n"] {} .null #[] {}).submit (fun _ => false)
            tripping).2.2.readVariable "n").1
        = (((sampleOver [] {} .null #[] {}).submit (fun _ => false)
            tripping).2.2.readVariable "n").1 := by
  obtain ⟨outcome, _, reads, _⟩ :=
    names_matter_by_text_alone tripping [] ["x", "n"] {} .null #[] {} (fun _ => false)
      (fun _ => false) fun _ _ _ => rfl
  have failed
      : ((sampleOver [] {} .null #[] {}).submit (fun _ => false) tripping).1
        = .failed { cause := .divisionByZero, span? := some ⟨52, 80⟩ } := by
    decide +kernel
  exact ⟨by decide +kernel, outcome.trans failed, reads [] "n"⟩

end Console

end Scratchpad
