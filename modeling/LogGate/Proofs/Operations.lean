import LogGate.Proofs.Footprint
import LogGate.Proofs.Sequencing

/-!
What an operation may change, and the walk over all operations: one has every property that actions inherit
from their parts, if the changes have it that the operation may make.
-/

namespace LogGate

/-- The footprint of an operation: only operations with an id keep an object, and only those that set
loggers up, log or look for a filter can build a rule. -/
def Operation.footprint : Operation → Footprint
  | .register id _ _ | .tableOfPairs id _ _ | .tableOfMapping id _ _ | .takeSnapshot id _
  | .askProvider id _ | .createFilter id _ | .newFilter id _ | .configOfEnvironment id _
  | .configOfNamed id _ | .newConfig id _ | .buildFilter id _ _ _ | .getDefaultConfig id =>
    { place := id }
  | .newProvider id _ => { place := some id }
  | .getFilter id _ => { place := id, builds := true }
  | .getLogger _ _ | .logWithContext _ _ _ _ _ | .demonstrate => { builds := true }
  | _ => {}

/-- What may be touched: the sources of data, the configurations, and which one is the default one. -/
structure Touch where
  sources : Bool := false
  configs : Bool := false
  default : Bool := false

/-- What an operation may touch: those that make, set or ask a source touch the sources, those that make or
change a configuration touch the configurations, and those that set or may need the default one touch
this. -/
def Operation.touch : Operation → Touch
  | .newProvider _ _ | .setSource _ _ | .askProvider _ _ | .judgeCall _ _ _ _ | .judgeLevel _ _
  | .judgeRecord _ _ | .filterSnapshot _ | .adapt _ _ _ => { sources := true }
  | .configOfEnvironment _ _ | .configOfNamed _ _ | .newConfig _ _ | .setConfig _ _ _
  | .appendConfig _ _ | .demonstrate => { configs := true }
  | .setDefaultConfig _ => { default := true }
  | .getDefaultConfig _ | .getFilter _ _ | .getLogger _ _ | .logWithContext _ _ _ _ _ =>
    { configs := true, default := true }
  | _ => {}

/-- A property that actions inherit from their parts, and that the changes have which an operation may
make. -/
structure Operation.Covers (good : ∀ ⦃α : Type⦄, Act α → Prop) (operation : Operation) : Prop
    extends Act.Closed good where
  registered : ∀ {context : Context} {id : Option String} {name : Literal} {rank : Int},
    operation = .register id name rank → good (operation.perform context)
  stored : ∀ object, good (Act.store operation.footprint.place object)
  numbered : good Act.nextNumber
  requested : good Act.nextRequest
  assigned : ∀ assignments, good (Act.setEnvironment assignments)
  timed : ∀ clock, good (modify fun session => { session with clock } : Act Unit)
  made : ∀ name, good (Act.logger name)
  sourced : operation.touch.sources = true → ∀ {change : Session → List Source},
    (fun session scopes homes => change (Session.withScopes session scopes homes)) =
      (fun session _ _ => change session) →
    good (modify fun session => { session with sources := change session } : Act Unit)
  configured : operation.touch.configs = true → ∀ config, good (Act.addConfig config)
  reconfigured : operation.touch.configs = true → ∀ number config,
    good (Act.replaceConfig number config)
  defaulted : operation.touch.default = true → ∀ defaultConfig,
    good (modify fun session => { session with defaultConfig } : Act Unit)
  found : operation.footprint.builds = true → ∀ number, good (Act.ruleOf number)
  setUp : operation.footprint.builds = true → ∀ {name : Value} {config : Option Nat},
    good (Act.configOrDefault config) → good (Act.getLogger name config)

namespace Operation.Covers

open Act

variable {good : ∀ ⦃α : Type⦄, Act α → Prop} {operation : Operation}

theorem configOrDefault (covers : operation.Covers good) (configs : operation.touch.configs = true)
    (default : operation.touch.default = true) (config : Option Nat) :
    good (Act.configOrDefault config) :=
  covers.toClosed.configOrDefault fun _ => covers.toClosed.defaultConfig (covers.configured configs)
    fun number => covers.defaulted default (some number)

theorem ask (covers : operation.Covers good) (free : operation.touch.sources = true)
    (context : Context) (provider : Provider) : good (Act.ask context provider) := by
  refine covers.toClosed.ask (fun number => covers.get rfl fun session => ?_) context provider
  exact covers.bind (covers.sourced free rfl) fun _ => covers.attempt _

section Answering

variable {id : Option String}

theorem answerTable (covers : operation.Covers good) (place : operation.footprint.place = id)
    (table : ThresholdTable) : good (Act.answerTable id table) := by
  subst place
  exact covers.bind (covers.stored _) fun _ => covers.pure _

theorem answerSnapshot (covers : operation.Covers good) (place : operation.footprint.place = id)
    (snapshot : Snapshot) : good (Act.answerSnapshot id snapshot) := by
  subst place
  exact covers.bind (covers.stored _) fun _ => covers.pure _

theorem answerFilter (covers : operation.Covers good) (place : operation.footprint.place = id)
    (filter : Filter) : good (Act.answerFilter id filter) := by
  subst place
  exact covers.bind covers.numbered fun _ => covers.bind (covers.stored _) fun _ => covers.pure _

theorem answerConfig (covers : operation.Covers good) (place : operation.footprint.place = id)
    (number : Nat) : good (Act.answerConfig id number) := by
  subst place
  exact covers.bind (covers.stored _) fun _ => covers.get rfl fun _ => covers.pure _

end Answering

/-- An operation has every property that its changes have, if actions inherit it from their parts. -/
theorem perform (covers : operation.Covers good) (context : Context) :
    good (operation.perform context) := by
  cases operation with
  | register id name rank => exact covers.registered rfl
  | resolveLevel name default =>
      refine covers.bind (covers.read name) fun name => covers.bind (covers.read default) fun given => ?_
      split
      · exact covers.get rfl fun _ => covers.bind (covers.attempt _) fun _ => covers.pure _
      · exact covers.get rfl fun _ => covers.bind (covers.attempt _) fun _ => covers.pure _
      · refine covers.get rfl fun session => ?_
        split
        · exact covers.pure _
        · split <;> exact covers.throw _
  | levelOfNumber number => exact covers.get rfl fun _ => covers.pure _
  | listLevels => exact covers.get rfl fun _ => covers.pure _
  | compareLevels first second =>
      exact covers.bind (covers.read first) fun _ => covers.bind (covers.levelOf _) fun _ =>
        covers.bind (covers.read second) fun _ => covers.bind (covers.levelOf _) fun _ => covers.pure _
  | compareOrders first second => exact covers.pure _
  | readVerdict token default =>
      refine covers.bind (covers.read token) fun token => covers.bind (covers.read default)
        fun given => ?_
      split
      · exact covers.pure _
      · exact covers.bind (covers.attempt _) fun _ => covers.pure _
  | tableOfPairs id pairs default =>
      exact covers.bind (covers.read pairs) fun _ => covers.bind (covers.read default) fun _ =>
        covers.get rfl fun _ => covers.bind (covers.attempt _) fun _ => covers.answerTable rfl _
  | tableOfMapping id levels default =>
      exact covers.bind (covers.read levels) fun _ => covers.bind (covers.read default) fun _ =>
        covers.get rfl fun _ => covers.bind (covers.attempt _) fun _ => covers.answerTable rfl _
  | lookUp table value =>
      exact covers.bind (covers.table table) fun _ => covers.bind (covers.read value) fun _ =>
        covers.bind (covers.attempt _) fun _ => covers.pure _
  | compareTables first second =>
      refine covers.bind (covers.table first) fun _ => ?_
      cases second with
      | object second => exact covers.bind (covers.table second) fun _ => covers.pure _
      | value value => exact covers.bind (covers.read value) fun _ => covers.pure _
  | showContext => exact covers.pure _
  | getContext name default =>
      exact covers.bind (covers.read name) fun _ => covers.bind (covers.read default) fun _ =>
        covers.bind (covers.attempt _) fun _ => covers.pure _
  | takeSnapshot id data =>
      exact covers.bind (covers.read data) fun _ => covers.bind (covers.attempt _) fun _ =>
        covers.answerSnapshot rfl _
  | getEntry snapshot name default =>
      refine covers.bind (covers.snapshot snapshot) fun _ => covers.bind (covers.read name) fun _ =>
        covers.bind (covers.read default) fun _ => covers.bind (covers.attempt _) fun found => ?_
      cases found <;> exact covers.pure _
  | getItem snapshot name =>
      refine covers.bind (covers.snapshot snapshot) fun _ => covers.bind (covers.read name) fun _ =>
        covers.bind (covers.attempt _) fun found => ?_
      cases found with
      | none => exact covers.throw _
      | some content => exact covers.pure _
  | compareSnapshots first second =>
      refine covers.bind (covers.snapshot first) fun _ => ?_
      cases second with
      | object second => exact covers.bind (covers.snapshot second) fun _ => covers.pure _
      | value value => exact covers.bind (covers.read value) fun _ => covers.pure _
  | emptySnapshot => exact covers.pure _
  | snapshotOfRecord record => exact covers.bind (covers.readRecord record) fun _ => covers.pure _
  | newProvider id form =>
      have kept (made : Provider) : good (store (some id) (.provider made) >>= fun _ =>
          pure (Answer.text made.text)) := covers.bind (covers.stored _) fun _ => covers.pure _
      cases form with
      | ambient => exact covers.bind (covers.pure Provider.ambient) kept
      | silent => exact covers.bind (covers.pure Provider.silent) kept
      | source data name =>
          exact covers.bind (covers.read data) fun _ => covers.bind (covers.readOption name) fun _ =>
            covers.get rfl fun _ => covers.bind (covers.sourced rfl rfl) fun _ =>
              covers.bind (covers.pure _) kept
  | setSource provider data =>
      refine covers.bind (covers.provider provider) fun found => ?_
      cases found with
      | source number name =>
          exact covers.bind (covers.read data) fun _ => covers.bind (covers.sourced rfl rfl) fun _ =>
            covers.pure _
      | _ => exact covers.throw _
  | countCalls provider =>
      refine covers.bind (covers.provider provider) fun found => ?_
      cases found with
      | source number name => exact covers.get rfl fun _ => covers.pure _
      | _ => exact covers.throw _
  | askProvider id provider =>
      refine covers.bind (covers.provider provider) fun found =>
        covers.bind (covers.ask rfl context found) ?_
      rintro (_ | snapshot)
      · exact covers.throw _
      · exact covers.answerSnapshot rfl snapshot
  | createFilter id form =>
      exact covers.bind (covers.createFilter form) fun _ => covers.answerFilter rfl _
  | newFilter id form => exact covers.bind (covers.newFilter form) fun _ => covers.answerFilter rfl _
  | describeFilter filter => exact covers.bind (covers.filter filter) fun _ => covers.pure _
  | levelMap filter added =>
      exact covers.bind (covers.filter filter) fun _ => covers.get rfl fun _ =>
        covers.bind (covers.attempt _) fun _ => covers.pure _
  | evaluate filter level snapshot =>
      exact covers.bind (covers.filter filter) fun _ => covers.bind (covers.read level) fun _ =>
        covers.bind (covers.snapshotOf snapshot) fun _ => covers.bind (covers.evaluate _ _ _)
          fun _ => covers.pure _
  | judgeCall filter level arguments marker =>
      exact covers.bind (covers.filter filter) fun _ => covers.bind (covers.read level) fun _ =>
        covers.bind (covers.readAll arguments) fun _ => covers.bind (covers.read marker) fun _ =>
          covers.bind (covers.eventOutcome (covers.ask rfl _ _) _) fun _ => covers.pure _
  | judgeLevel filter level =>
      exact covers.bind (covers.filter filter) fun _ => covers.bind (covers.read level) fun _ =>
        covers.bind (covers.eventOutcome (covers.ask rfl _ _) _) fun _ => covers.pure _
  | judgeRecord filter record =>
      exact covers.bind (covers.filter filter) fun _ => covers.bind (covers.readRecord record)
        fun _ => covers.bind (covers.recordOutcome (covers.ask rfl _ _) _) fun _ => covers.pure _
  | filterSnapshot filter =>
      exact covers.bind (covers.filter filter) fun _ =>
        covers.bind (covers.currentSnapshot (covers.ask rfl _ _)) fun _ => covers.pure _
  | compareFilters first second =>
      refine covers.bind (covers.filter first) fun _ => ?_
      cases second with
      | object second => exact covers.bind (covers.filter second) fun _ => covers.pure _
      | value value => exact covers.bind (covers.read value) fun _ => covers.pure _
  | adapt filter name record =>
      exact covers.bind (covers.filter filter) fun _ => covers.bind (covers.readOption name) fun _ =>
        covers.bind (covers.readRecord record) fun _ =>
          covers.bind (covers.adapterAdmits (covers.ask rfl _ _) _ _) fun _ => covers.pure _
  | compareObjects first second =>
      exact covers.bind (covers.object first) fun _ => covers.bind (covers.object second) fun _ =>
        covers.bind (covers.isIdentical _ _) fun _ => covers.pure _
  | readListing listing =>
      exact covers.bind (covers.read listing) fun _ => covers.bind (covers.attempt _) fun _ =>
        covers.pure _
  | setEnvironment assignments =>
      exact covers.bind (covers.assigned assignments) fun _ => covers.pure _
  | configOfEnvironment id assignments =>
      exact covers.bind (covers.assigned assignments) fun _ => covers.get rfl fun _ =>
        covers.bind (covers.attempt _) fun _ => covers.bind (covers.configured rfl _) fun _ =>
          covers.answerConfig rfl _
  | configOfNamed id data =>
      exact covers.bind (covers.readFields data) fun _ => covers.bind (covers.attempt _) fun _ =>
        covers.bind (covers.configured rfl _) fun _ => covers.answerConfig rfl _
  | newConfig id fields =>
      exact covers.bind (covers.readFields fields) fun _ => covers.bind (covers.attempt _) fun _ =>
        covers.bind (covers.configured rfl _) fun _ => covers.answerConfig rfl _
  | setConfig config field value =>
      exact covers.bind (covers.config config) fun _ => covers.bind (covers.read value) fun _ =>
        covers.get rfl fun _ => covers.bind (covers.reconfigured rfl _ _) fun _ =>
          covers.get rfl fun _ => covers.pure _
  | appendConfig config entry =>
      exact covers.bind (covers.config config) fun _ => covers.bind (covers.read entry) fun _ =>
        covers.get rfl fun _ => covers.bind (covers.attempt _) fun _ =>
          covers.bind (covers.reconfigured rfl _ _) fun _ => covers.get rfl fun _ => covers.pure _
  | showConfig config =>
      exact covers.get rfl fun _ => covers.bind (covers.config config) fun _ => covers.pure _
  | compareConfigs first second =>
      exact covers.bind (covers.config first) fun _ => covers.bind (covers.config second) fun _ =>
        covers.get rfl fun _ => covers.get rfl fun _ => covers.pure _
  | buildFilter id config order provider =>
      exact covers.bind (covers.config config) fun _ => covers.bind (covers.findProvider provider)
        fun _ => covers.get rfl fun _ => covers.get rfl fun _ => covers.bind (covers.attempt _)
          fun _ => covers.answerFilter rfl _
  | getDefaultConfig id =>
      exact covers.bind (covers.configOrDefault rfl rfl none) fun _ => covers.answerConfig rfl _
  | setDefaultConfig config =>
      exact covers.bind (covers.findConfig config) fun number =>
        covers.bind (covers.defaulted rfl number) fun _ => covers.pure _
  | formatRecord record withTime =>
      exact covers.bind (covers.readRecord record) fun _ => covers.bind (covers.readOption withTime)
        fun _ => covers.bind (covers.attempt _) fun _ => covers.pure _
  | setClock clock => exact covers.bind (covers.timed clock) fun _ => covers.pure _
  | getFilter id config =>
      refine covers.bind (covers.findConfig config) fun _ =>
        covers.bind (covers.configOrDefault rfl rfl _) fun _ => covers.bind (covers.found rfl _) ?_
      rintro (_ | ⟨number, rule⟩)
      · exact covers.pure _
      · exact covers.bind (covers.stored _) fun _ => covers.pure _
  | getLogger name config =>
      exact covers.bind (covers.read name) fun _ => covers.bind (covers.findConfig config) fun _ =>
        covers.bind (covers.setUp rfl (covers.configOrDefault rfl rfl _)) fun _ =>
          covers.get rfl fun _ => covers.pure _
  | showLogger name =>
      exact covers.bind (covers.made name) fun _ => covers.get rfl fun _ => covers.pure _
  | logWithContext name level message config extra =>
      refine covers.bind (covers.made name) fun _ => covers.bind (covers.read level) fun _ =>
        covers.bind (covers.read message) fun _ => covers.bind (covers.readFields extra) fun _ =>
          covers.bind (covers.callConfig config _) ?_
      rintro ⟨_ | config, rest⟩
      · exact covers.get rfl fun _ => covers.bind (covers.attempt _) fun _ => covers.throw _
      · exact covers.bind (covers.logWithContext (covers.configOrDefault rfl rfl config)
          (covers.found rfl) _ _ _ _ _) fun _ => covers.pure _
  | log name level message arguments =>
      exact covers.bind (covers.made name) fun _ => covers.bind (covers.read message) fun _ =>
        covers.bind (covers.readAll arguments) fun _ => covers.bind (covers.log _ _ _ _ _ _)
          fun _ => covers.pure _
  | demonstrate =>
      refine covers.bind ?_ fun _ => covers.pure _
      exact covers.bind (covers.configured rfl _) fun number =>
        covers.bind (covers.setUp rfl (covers.pure number)) fun _ =>
          covers.bind (covers.log _ _ _ _ _ _) fun _ =>
            covers.bind (covers.serveTenants covers.requested (covers.found rfl) _ _ _) fun _ =>
              covers.bind (covers.log _ _ _ _ _ _) fun _ => covers.pure _

end Operation.Covers

end LogGate
