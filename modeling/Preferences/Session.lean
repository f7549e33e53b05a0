import Preferences.Preference.Blueprint
import Preferences.Registry

/-!
# Sessions

A session holds a registry, preferences outside it under labels, named stores, a folder of files,
and a clock. It takes requests one after another. The record of a request has its answer or its
failure, the preference it was about as it is afterwards, and what was logged and noticed.
Preferences are shown with their values, and what is logged while these are read comes last. A
reading that aborts is recorded as a failure of its own sort.
-/

namespace Preferences

open Calendar (Selection)

/-! ### Requests -/

/-- Where a preference is found: under a label, or in the registry. -/
inductive Place where
  | loose (label : String)
  | filed (page name : String)

/-- What can be asked of one preference. Selections that were given by an unknown ordinal are
carried as the error they are. -/
inductive Ask where
  | info
  | get (type : ValueType)
  | getDefault (type : ValueType)
  | set (value : Except Error Value)
  | setQuietly (value : Value)
  | select (selection : Except Error Selection)
  | reset
  | bind (item : Nat)
  | clearBinding
  | makeInternal
  | watch (watcher : String)
  | unwatch
  /-- Puts a copy, with its watcher, under a label. -/
  | copy (label : String)
  | accepts (value : Value)
  | choices
  | choiceAt (index : Nat)
  | choicePlace (key : String)
  | save (store : String)
  | restore (store : String)

inductive Request where
  | ask (place : Place) (what : Ask)
  | build (label : String) (blueprint : Blueprint)
  | setClock (now : Int64)
  | registerNew (blueprint : Blueprint)
  /-- Moves a preference from its label to the registry; it is lost if it cannot be filed. -/
  | registerLoose (label : String)
  | unregister (page name : String) (label : Option String)
  | find (page name : String)
  | getFiled (page name : String) (type : ValueType)
  | setFiled (page name : String) (value : Except Error Value)
  | pages
  | layout (page : String)
  | listing
  | extent
  | resetAll
  | clearBindings
  | saveAll (store : String)
  | loadAll (store : String)
  | keep
  /-- Goes back to the copy of the registry that was kept. -/
  | goBack
  /-- From now on a store refuses to take a value under a page and name. -/
  | refuse (store page name : String)
  | write (store page name : String) (value : Stored)
  | read (store page name : String)
  | remove (store page name : String)
  | contains (store page name : String)
  | clear (store : String)
  | summary (store : String)
  | contents (store : String)
  | saveJson (store path : String)
  | saveToml (store path : String)
  | loadJson (store path : String)
  | loadToml (store path : String)
  | putFile (path : String) (node : Node)
  | makeDirectory (path : String)
  | showFile (path : String)

/-! ### Answers -/

inductive Answer where
  | nothing
  | flag (value : Bool)
  | count (n : Nat)
  | value (value : Value)
  | info (preference : Preference)
  | found (preference : Option Preference)
  | choices (entries : Option (List Entry))
  | choice (entry : Option Entry)
  | place (index : Option Nat)
  /-- What a store holds for the preference. -/
  | holding (value : Option Stored)
  | read (value : Option Stored)
  | removed (value : Option Stored)
  | unregistered (preference : Option Preference)
  | names (names : List String)
  | layout (preferences : List Preference)
  | listing (preferences : List Preference)
  | cleared (preferences : List Preference)
  | extent (size : Nat) (isEmpty : Bool)
  | summary (store : Store)
  | contents (store : Store)
  | text (text : Option String)

inductive Failure where
  /-- There is no preference in the place. -/
  | absent
  | failed (error : Error)
  | aborted

def Failure.ofFault : Fault → Failure
  | .failed error => .failed error
  | .aborted => .aborted

structure Record where
  result : Except Failure Answer
  subject : Option Preference
  log : List Event
  notices : List Notice

namespace Record

def answered (answer : Answer) : Record := ⟨.ok answer, none, [], []⟩

def absent : Record := ⟨.error .absent, none, [], []⟩

/-- The record of an outcome, with the answer made from its value. -/
def ofOutcome {σ α : Type} (o : Outcome σ α) (answer : α → Answer) : Record :=
  ⟨(o.result.map answer).mapError .failed, none, o.log, o.notices⟩

def ofRead {σ : Type} (o : Outcome σ Value Fault) : Record :=
  ⟨(o.result.map .value).mapError .ofFault, none, o.log, o.notices⟩

def showing (record : Record) (tick : Int64) (p : Preference) : Record :=
  { record with subject := some p, log := record.log ++ p.viewLog tick }

def listed (tick : Int64) (ps : List Preference) (answer : Answer) : Record :=
  { answered answer with log := ps.flatMap fun p => p.viewLog tick }

end Record

/-! ### Sessions -/

structure Session where
  clock : Int64
  loose : Dict Preference
  registry : Registry
  kept : Registry
  stores : Dict Store
  /-- The stores that refuse a value, with its page and name. -/
  refusals : List (String × String × String)
  folder : Folder

namespace Session

def start (clock : Int64) : Session :=
  ⟨clock, .empty, .empty, .empty, .empty, [], .empty⟩

/-! ### Parts of a session -/

def preference? (s : Session) : Place → Option Preference
  | .loose label => s.loose.get? label
  | .filed page name => s.registry.get? page name

def putPreference (s : Session) (place : Place) (p : Preference) : Session :=
  match place with
  | .loose label => { s with loose := s.loose.insert label p }
  | .filed page name => { s with registry := s.registry.insert page name p }

/-- A store is empty until something is put into it. -/
def store (s : Session) (name : String) : Store := (s.stores.get? name).getD .empty

def putStore (s : Session) (name : String) (store : Store) : Session :=
  { s with stores := s.stores.insert name store }

def refuses (s : Session) (store page name : String) : Bool :=
  s.refusals.contains (store, page, name)

/-! ### Asking one preference -/

/-- What an ask does to the preference itself. Readings, which do nothing to it, and asks that
involve more than the preference are left to `ask`. -/
def onPreference (tick : Int64) (p : Preference) : Ask → Outcome Preference Answer
  | .info => .done p (.info p)
  | .set (.ok value) => (p.set value).map fun _ => .nothing
  | .set (.error e) => .failed p e []
  | .setQuietly value => (p.setQuietly value).map fun _ => .nothing
  | .select (.ok selection) => .done (p.select selection).1 (.flag (p.select selection).2)
  | .select (.error e) => if p.body.date?.isSome then .failed p e [] else .done p (.flag false)
  | .reset => (p.reset tick).map fun _ => .nothing
  | .bind item => (p.bind item).map fun _ => .nothing
  | .clearBinding => .done p.clearBinding .nothing
  | .makeInternal => p.makeInternal.map fun _ => .nothing
  | .watch watcher => .done (p.watch watcher) .nothing
  | .unwatch => .done p.unwatch .nothing
  | .accepts value => .done p (((p.body.accepts? value).map .flag).getD .nothing)
  | .choices => .done p (.choices (p.body.choice?.map Choice.entries))
  | .choiceAt index => .done p (.choice (p.body.choice?.bind (·.entries[index]?)))
  | .choicePlace key =>
    .done p (.place (p.body.choice?.bind fun c => (Choice.place? c.entries key).map Fin.val))
  | .get _ | .getDefault _ | .copy _ | .save _ | .restore _ => .done p .nothing

/-- Asks the preference in a place. A value that could not be read is a failure even where there is
no preference. -/
def ask (s : Session) (place : Place) (what : Ask) : Session × Record :=
  match s.preference? place with
  | none =>
    match what with
    | .set (.error e) => (s, ⟨.error (.failed e), none, [], []⟩)
    | _ => (s, .absent)
  | some p =>
    match what with
    | .get type => (s, (Record.ofRead (p.get s.clock type)).showing s.clock p)
    | .getDefault type => (s, (Record.ofRead (p.getDefault s.clock type)).showing s.clock p)
    | .copy label =>
      ({ s with loose := s.loose.insert label p }, (Record.answered .nothing).showing s.clock p)
    | .save store =>
      let o := p.save (s.refuses store) (s.store store)
      let answer := Answer.holding (o.state.get? p.id.page p.id.name)
      (s.putStore store o.state, (Record.ofOutcome o fun _ => answer).showing s.clock p)
    | .restore store =>
      let o := p.restoreFrom (s.store store)
      let answer := Answer.holding ((s.store store).get? p.id.page p.id.name)
      (s.putPreference place o.state,
        (Record.ofOutcome o fun _ => answer).showing s.clock o.state)
    | what =>
      let o := onPreference s.clock p what
      (s.putPreference place o.state, (Record.ofOutcome o id).showing s.clock o.state)

/-! ### Requests -/

/-- Files a preference and answers how many are filed then. -/
def register (s : Session) (p : Preference) (log : List Event) : Session × Record :=
  let o := s.registry.register p
  let record := Record.ofOutcome o fun _ => .count o.state.size
  ({ s with registry := o.state }, { record with log := log ++ record.log })

def load (s : Session) (name : String) (o : Outcome Store Unit) : Session × Record :=
  (s.putStore name o.state, .ofOutcome o fun _ => .contents o.state)

def save (s : Session) (o : Outcome Folder Unit) : Session × Record :=
  ({ s with folder := o.state }, .ofOutcome o fun _ => .nothing)

/-- Changes the folder by hand, which is not logged. -/
def changeFolder (s : Session) (changed : Except Error Folder) : Session × Record :=
  match changed with
  | .ok folder => ({ s with folder := folder }, .answered .nothing)
  | .error e => (s, ⟨.error (.failed e), none, [], []⟩)

def step (s : Session) : Request → Session × Record
  | .ask place what => s.ask place what
  | .build label blueprint =>
    match blueprint.build s.clock with
    | (.ok p, log) =>
      let record : Record := ⟨.ok .nothing, none, log, []⟩
      ({ s with loose := s.loose.insert label p }, record.showing s.clock p)
    | (.error e, log) =>
      ({ s with loose := s.loose.erase label }, ⟨.error (.failed e), none, log, []⟩)
  | .setClock now => ({ s with clock := now }, .answered .nothing)
  | .registerNew blueprint =>
    match blueprint.build s.clock with
    | (.ok p, log) => s.register p log
    | (.error e, log) => (s, ⟨.error (.failed e), none, log, []⟩)
  | .registerLoose label =>
    match s.loose.get? label with
    | none => (s, .absent)
    | some p => { s with loose := s.loose.erase label }.register p []
  | .unregister page name label =>
    let (registry, removed) := s.registry.unregister page name
    let loose := match label, removed with
      | some label, some p => s.loose.insert label p
      | _, _ => s.loose
    ({ s with registry := registry, loose := loose },
      .listed s.clock removed.toList (.unregistered removed))
  | .find page name => (s, .answered (.found (s.registry.get? page name)))
  | .getFiled page name type =>
    let o := s.registry.value s.clock page name type
    ({ s with registry := o.state }, .ofRead o)
  | .setFiled page name value =>
    match value with
    | .error e => (s, ⟨.error (.failed e), none, [], []⟩)
    | .ok value =>
      let o := s.registry.set page name value
      ({ s with registry := o.state }, .ofOutcome o fun _ => .nothing)
  | .pages => (s, .answered (.names s.registry.pageNames))
  | .layout page => (s, .answered (.layout (s.registry.layout page)))
  | .listing => (s, .listed s.clock s.registry.values (.listing s.registry.values))
  | .extent => (s, .answered (.extent s.registry.size s.registry.isEmpty))
  | .resetAll =>
    let o := s.registry.resetAll s.clock
    ({ s with registry := o.state }, .ofOutcome o fun _ => .nothing)
  | .clearBindings =>
    ({ s with registry := s.registry.clearBindings }, .answered (.cleared s.registry.values))
  | .saveAll store =>
    let o := s.registry.saveAll (s.refuses store) (s.store store)
    (s.putStore store o.state, .ofOutcome o fun _ => .nothing)
  | .loadAll store =>
    let o := s.registry.loadAll (s.store store)
    ({ s with registry := o.state }, .ofOutcome o .count)
  | .keep => ({ s with kept := s.registry }, .answered .nothing)
  | .goBack => ({ s with registry := s.kept }, .answered (.count s.kept.size))
  | .refuse store page name =>
    ({ s with refusals := (store, page, name) :: s.refusals }, .answered .nothing)
  | .write store page name value =>
    let o := (s.store store).write (s.refuses store) page name value
    (s.putStore store o.state, .ofOutcome o fun _ => .nothing)
  | .read store page name => (s, .answered (.read ((s.store store).get? page name)))
  | .remove store page name =>
    let (rest, removed) := (s.store store).remove page name
    (s.putStore store rest, .answered (.removed removed))
  | .contains store page name => (s, .answered (.flag ((s.store store).contains page name)))
  | .clear store => (s.putStore store .empty, .answered .nothing)
  | .summary store => (s, .answered (.summary (s.store store)))
  | .contents store => (s, .answered (.contents (s.store store)))
  | .saveJson store path => s.save ((s.store store).saveJson s.folder path)
  | .saveToml store path => s.save ((s.store store).saveToml s.folder path)
  | .loadJson store path => s.load store ((s.store store).loadJson s.folder path)
  | .loadToml store path => s.load store ((s.store store).loadToml s.folder path)
  | .putFile path node => s.changeFolder (s.folder.put path node)
  | .makeDirectory path => s.changeFolder (s.folder.makeDirectory path)
  | .showFile path => (s, .answered (.text (s.folder.read path).toOption))

/-- Takes requests in order; one record for each. -/
def run (s : Session) : List Request → Session × List Record
  | [] => (s, [])
  | request :: rest =>
    let (next, record) := s.step request
    let (last, records) := next.run rest
    (last, record :: records)

end Session

end Preferences
