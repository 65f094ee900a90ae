import FastPath.Config
import FastPath.Event
import FastPath.Text.Duration

/-!
# Failures and notices

A `Failure` says what was attempted and why it failed. A `Notice` is one entry of the log: what
happened, as data. Wording and severity are given here and nowhere else.
-/

namespace FastPath

open FastPath.Text

/-- A step of a backend that can fail. -/
inductive Attempt
  | installRule (r : Rule)
  | deleteRule (r : Rule)
  | insertBinding (downstream upstream : IfIndex)
  | deleteBinding (downstream upstream : IfIndex)
  | readStatsTable
  | readStats (i : IfIndex)
  | createStats (i : IfIndex)
  | deleteStats (i : IfIndex)
  | updateLimit (i : IfIndex)
  | daemonAddRule (r : Rule)
  | daemonRemoveRule (r : Rule)
  | daemonReport
  | daemonSetQuota (i : IfIndex)
  | daemonClearStats (i : IfIndex)

/-- The wording of an attempt that failed. -/
def Attempt.text : Attempt → String
  | installRule r => s!"Could not update entry for rule {r.text}"
  | deleteRule r => s!"Could not delete entry for rule {r.text}"
  | insertBinding d u => s!"Could not insert upstream binding {d} -> {u}"
  | deleteBinding d u => s!"Could not delete upstream binding {d} -> {u}"
  | readStatsTable => "Could not read the stats map"
  | readStats i => s!"Could not read stats entry of interface {i}"
  | createStats i => s!"Could not create stats entry of interface {i}"
  | deleteStats i => s!"Could not delete stats entry of interface {i}"
  | updateLimit i => s!"Could not update limit of interface {i}"
  | daemonAddRule r => s!"Daemon failed to add rule {r.text}"
  | daemonRemoveRule r => s!"Daemon failed to remove rule {r.text}"
  | daemonReport => "Daemon failed to report offload stats"
  | daemonSetQuota i => s!"Daemon failed to set quota on interface {i}"
  | daemonClearStats i => s!"Daemon failed to clear stats of interface {i}"

/-- Why something failed. -/
inductive Cause
  /-- The platform refused a call, for the reason that it gives. -/
  | refused (reason : String)
  /-- An entry with the key is already in the table. -/
  | keyExists (table : TableLabel)
  /-- A limit needs a counter entry beside it, and there is none. -/
  | statsMissing (i : IfIndex)
  /-- There is no counter entry to read and clear. -/
  | noStats (i : IfIndex)
  /-- These tables could not be cleared, for these reasons. -/
  | tablesNotCleared (refusals : List (TableLabel × String))

/-- The wording of a cause. -/
def Cause.text : Cause → String
  | refused reason => reason
  | keyExists table => s!"{table.text}: key exists"
  | statsMissing i => s!"Stats entry of interface {i} is missing"
  | noStats i => s!"No stats entry for interface {i}"
  | tablesNotCleared refusals =>
    "Failed to clear offload maps: " ++
      quotedList (refusals.map fun (table, reason) => s!"{table.text}: {reason}")

/-- What was attempted, when that adds to the cause, and why it failed. -/
structure Failure where
  attempt : Option Attempt
  cause : Cause

/-- The wording of a failure, from the outside in. -/
def Failure.text (f : Failure) : String :=
  match f.attempt with
  | some a => a.text ++ ": " ++ f.cause.text
  | none => f.cause.text

/-- Why a notification was not published. -/
inductive OutletFailure
  | write (reason : String)
  | flush (reason : String)

/-- The wording of a failure to publish. -/
def OutletFailure.text : OutletFailure → String
  | write reason => s!"Failed to write stats line: {reason}"
  | flush reason => s!"Failed to flush stats output: {reason}"

/-- Why reading events ended early. -/
inductive FeedFailure
  /-- The worker is gone. -/
  | interrupted
  /-- A line is not UTF-8. -/
  | unreadable
deriving DecidableEq

namespace FeedFailure

/-- The wording of what failed. -/
def message : FeedFailure → String
  | interrupted => "Event feed interrupted"
  | unreadable => "Failed to read event feed"

/-- The wording of why it failed. -/
def reason : FeedFailure → String
  | interrupted => RequestError.stopped.message
  | unreadable => "stream did not contain valid UTF-8"

/-- The wording of a failure, from the outside in. -/
def text (f : FeedFailure) : String :=
  f.message ++ ": " ++ f.reason

end FeedFailure

/-- Which program an interface gets. -/
inductive Direction
  /-- From tethered clients to the upstream. -/
  | upstream
  /-- From the upstream to tethered clients. -/
  | downstream
deriving DecidableEq

/-- The name of a direction. -/
def Direction.text : Direction → String
  | upstream => "upstream"
  | downstream => "downstream"

/-- How the kernel's fast path is reached. -/
inductive Mode
  /-- Through the tables themselves. -/
  | mapBased
  /-- Through the offload daemon. -/
  | legacy
deriving DecidableEq

/-- The name of a mode. -/
def Mode.text : Mode → String
  | mapBased => "map-based"
  | legacy => "legacy"

/-- The severity of a notice. -/
inductive Level
  | error
  | warn
  | info
  | debug
  | trace
deriving DecidableEq

namespace Level

/-- The name of a level. -/
def text : Level → String
  | error => "error"
  | warn => "warn"
  | info => "info"
  | debug => "debug"
  | trace => "trace"

/-- Levels by how much they let through. -/
def rank : Level → Nat
  | error => 1
  | warn => 2
  | info => 3
  | debug => 4
  | trace => 5

end Level

/-- One entry of the log. -/
inductive Notice
  -- Choice of a backend
  | disabledByConfig
  | usingBackend (mode : Mode)
  | tablesUnavailable (missing : List TableLabel)
  | daemonUnavailable
  | tablesUnsupported
  | noProgramObject
  | programsUnsupported (path : String)
  -- Kernel tables
  | ruleNotInTable (r : Rule)
  | bindingNotInTable (downstream upstream : IfIndex)
  | statsEntryKept (i : IfIndex)
  | noLimitEntry (i : IfIndex)
  | limitNotDeleted (i : IfIndex) (f : Failure)
  | tablesCleared
  | leftoversKept (f : Failure)
  -- Rules
  | duplicateRule (neighbor : Ipv6) (d : DownstreamId)
  | ruleNotAdded (d : DownstreamId) (f : Failure)
  | ruleAdded (r : Rule) (d : DownstreamId)
  | quotaNotInitialized (upstream : IfIndex) (f : Failure)
  | bindingNotStarted (downstream upstream : IfIndex) (f : Failure)
  | noRules (d : DownstreamId)
  | noSuchRule (neighbor : Ipv6) (d : DownstreamId)
  | ruleNotRemoved (d : DownstreamId) (f : Failure)
  | ruleRemoved (r : Rule) (d : DownstreamId)
  | bindingNotStopped (downstream upstream : IfIndex) (f : Failure)
  | statsNotCleared (upstream : IfIndex) (f : Failure)
  | nothingToUpdate (d : DownstreamId)
  | rulesKept (d : DownstreamId) (count : Nat)
  -- Upstreams and limits
  | nameIgnored (i : IfIndex) (name : String)
  | upstreamNamed (i : IfIndex) (name : String)
  | upstreamRenamed (i : IfIndex) (old new : String)
  | countAlreadyZero (i : IfIndex)
  | limitPending (iface : String) (q : Quota)
  | pendingLimitApplied (iface : String) (q : Quota)
  | limitStored (i : IfIndex) (q : Quota)
  | limitNotSet (i : IfIndex) (f : Failure)
  | configuredLimitIgnored (iface : String) (e : RequestError)
  -- Statistics
  | pollingEvery (ms : Nat)
  | pollingStopped
  | pollFailed (f : Failure)
  | nothingToPublish
  | alertDisarmed
  | alertArmed (q : Quota)
  | alertReached (i : IfIndex) (bytes : UInt64)
  -- Attachment
  | pairAttached (internal external : String)
  | pairNotAttached (internal external : String)
  | alreadyAttached (iface : String) (pairs : Nat)
  | attachFailed (iface : String) (direction : Direction) (f : Failure)
  | noAttacher (iface : String)
  | detachFailed (iface : String) (f : Failure)
  -- Connection tracking
  | downstreamMonitored (d : DownstreamId)
  | downstreamNotMonitored (d : DownstreamId)
  | monitorNotStarted (f : Failure)
  | connection (line : String)
  | connectionsClosed
  -- Service and events
  | shutDown
  | handlesDropped
  | workerStopped
  | event (e : Event)
  | eventSkipped (line : Nat)
  | eventRejected (line : Nat) (e : RequestError)
  | ruleNotTaken (r : Rule) (d : DownstreamId)
  | pollingStarted (ms : Nat)
  | notPolling
  -- Publication
  | statsNotPublished (f : OutletFailure)
  | alertNotPublished (f : OutletFailure)
  -- Program
  | pollingFromStart (ms : Nat)
  | configMissing (path : String)
  | configLoaded (path : String)
  | configSaved (path : String)
  | offloadEnabled (mode : Mode)
  | offloadDisabled
  | feedClosed
  | feedFailed (f : FeedFailure)

namespace Notice

/-- The severity of a notice. -/
def level : Notice → Level
  | tablesUnavailable _ | daemonUnavailable | limitNotDeleted .. | leftoversKept _
  | ruleNotAdded .. | quotaNotInitialized .. | bindingNotStarted .. | ruleNotRemoved ..
  | bindingNotStopped .. | statsNotCleared .. | limitNotSet .. | pollFailed _ | attachFailed ..
  | detachFailed .. | monitorNotStarted _ | statsNotPublished _ | alertNotPublished _
  | feedFailed _ => .error
  | tablesUnsupported | programsUnsupported _ | ruleNotInTable _ | bindingNotInTable ..
  | statsEntryKept _ | noLimitEntry _ | duplicateRule .. | rulesKept .. | upstreamRenamed ..
  | countAlreadyZero _ | configuredLimitIgnored .. | eventSkipped _ | eventRejected .. | notPolling
  | offloadDisabled => .warn
  | disabledByConfig | usingBackend _ | noProgramObject | alertReached .. | shutDown
  | pollingStarted _ | pollingFromStart _ | configLoaded _ | configSaved _ | offloadEnabled _
  | feedClosed => .info
  | nothingToPublish | connection _ => .trace
  | _ => .debug

/-- The wording of a notice. -/
def text : Notice → String
  | disabledByConfig => "Tethering offload disabled by configuration"
  | usingBackend mode => s!"Using {mode.text} offload backend"
  | tablesUnavailable missing =>
    "❌ Tethering offload disabled, maps not available: " ++
      ", ".intercalate (missing.map TableLabel.text)
  | daemonUnavailable => "❌ Tethering offload disabled, offload daemon not available"
  | tablesUnsupported => "Kernel map support not compiled in (enable the offload-ebpf feature)"
  | noProgramObject => "No program object configured, interface attachment disabled"
  | programsUnsupported path =>
    s!"Program object {quoted path} configured but eBPF support is not compiled in"
  | ruleNotInTable r => s!"Rule {r.text} was not in the downstream map"
  | bindingNotInTable d u => s!"Upstream binding {d} -> {u} was not in the upstream map"
  | statsEntryKept i => s!"Stats entry of interface {i} already exists, keeping its counters"
  | noLimitEntry i => s!"No limit entry for interface {i}"
  | limitNotDeleted i f => s!"❌ Could not delete limit of interface {i}: {f.text}"
  | tablesCleared => "Cleared all offload maps"
  | leftoversKept f => s!"❌ {f.text}"
  | duplicateRule n d => s!"Ignoring duplicate rule for {n.text} on downstream {d}"
  | ruleNotAdded d f => s!"Failed to add rule on downstream {d}: {f.text}"
  | ruleAdded r d => s!"Added rule {r.text} on downstream {d}"
  | quotaNotInitialized u f => s!"Failed to initialize quota on upstream {u}: {f.text}"
  | bindingNotStarted d u f => s!"Failed to start upstream forwarding {d} -> {u}: {f.text}"
  | noRules d => s!"No rules for downstream {d}"
  | noSuchRule n d => s!"No rule for {n.text} on downstream {d}"
  | ruleNotRemoved d f => s!"Failed to remove rule on downstream {d}: {f.text}"
  | ruleRemoved r d => s!"Removed rule {r.text} on downstream {d}"
  | bindingNotStopped d u f => s!"Failed to stop upstream forwarding {d} -> {u}: {f.text}"
  | statsNotCleared u f => s!"Failed to clear stats of upstream {u}: {f.text}"
  | nothingToUpdate d => s!"No rules to update on downstream {d}"
  | rulesKept d count => s!"Downstream {d} kept {count} rules that failed to clear"
  | nameIgnored i name => s!"Ignoring upstream name {quoted name} for index {i}"
  | upstreamNamed i name => s!"Upstream {i} is {name}"
  | upstreamRenamed i old new => s!"Upstream {i} renamed from {old} to {new}"
  | countAlreadyZero i => s!"Rule count of upstream {i} already zero"
  | limitPending iface q =>
    s!"Upstream {iface} not known yet, keeping limit {q.toInt} until it registers"
  | pendingLimitApplied iface q => s!"Applying stored limit {q.toInt} to {iface}"
  | limitStored i q => s!"Stored limit {q.toInt} for upstream {i} without rules"
  | limitNotSet i f => s!"Failed to set limit on upstream {i}: {f.text}"
  | configuredLimitIgnored iface e => s!"⚠️  Ignoring configured limit for {iface}: {e.message}"
  | pollingEvery ms => s!"Stats polling every {duration ms}"
  | pollingStopped => "Stats polling stopped"
  | pollFailed f => s!"Failed to poll offload stats: {f.text}"
  | nothingToPublish => "No forwarded traffic since the last push"
  | alertDisarmed => "Data alert disarmed"
  | alertArmed q => s!"Data alert armed at {q.toInt} bytes"
  | alertReached i bytes => s!"Data alert reached on upstream {i} ({bytes} bytes)"
  | pairAttached i e => s!"Pair {i} <-> {e} already attached"
  | pairNotAttached i e => s!"Pair {i} <-> {e} not attached"
  | alreadyAttached iface pairs => s!"{iface} already attached ({pairs} pairs)"
  | attachFailed iface d f => s!"Failed to attach {d.text} program to {iface}: {f.text}"
  | noAttacher iface => s!"No program attacher, skipping attach of {iface}"
  | detachFailed iface f => s!"Failed to detach program from {iface}: {f.text}"
  | downstreamMonitored d => s!"Downstream {d} already monitored"
  | downstreamNotMonitored d => s!"Downstream {d} not monitored"
  | monitorNotStarted f => s!"Failed to start conntrack monitor: {f.text}"
  | connection line => s!"conntrack: {line}"
  | connectionsClosed => "conntrack stream closed"
  | shutDown => "Offload coordinator shut down"
  | handlesDropped => "All offload handles dropped"
  | workerStopped => "Offload worker stopped"
  | event e => s!"Event: {e.describe}"
  | eventSkipped line => s!"⚠️  Skipping event on line {line}"
  | eventRejected line e => s!"⚠️  Event on line {line} rejected: {e.message}"
  | ruleNotTaken r d => s!"Rule {r.text} on {d} not installed"
  | pollingStarted ms | pollingFromStart ms => s!"Polling offload stats every {duration ms}"
  | notPolling => "⚠️  Offload disabled, not polling"
  | statsNotPublished f => s!"Failed to publish stats: {f.text}"
  | alertNotPublished f => s!"Failed to publish alert: {f.text}"
  | configMissing path => s!"Config file {quoted path} not found, using defaults"
  | configLoaded path => s!"Loaded configuration from {quoted path}"
  | configSaved path => s!"Saved configuration to {quoted path}"
  | offloadEnabled mode => s!"✅ Tethering offload enabled ({mode.text})"
  | offloadDisabled => "⚠️  Tethering offload disabled, events will be ignored"
  | feedClosed => "Event feed closed, shutting down"
  | feedFailed f => s!"❌ {f.text}"

end Notice

end FastPath
