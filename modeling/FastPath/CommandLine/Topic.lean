import FastPath.Notice

/-!
# Topics of notices

Each notice belongs to a topic: the part of the program that gives it. Topics have names of parts
joined by two colons, so that the name of a wider topic starts the names of those within it.
-/

namespace FastPath

namespace Notice

/-- The topic of a notice within the program, or `none` for one about the run as a whole. -/
def subject : Notice → Option String
  | offloadEnabled _ | offloadDisabled | pollingFromStart _ | feedClosed | feedFailed _ => none
  | configMissing _ | configLoaded _ | configSaved _ => "config"
  | noProgramObject | programsUnsupported _ => "backends::attach"
  | connection _ | connectionsClosed => "backends::conntrack"
  | disabledByConfig | usingBackend _ | tablesUnavailable _ | daemonUnavailable =>
    "backends::offload"
  | tablesUnsupported => "backends::offload::map"
  | ruleNotInTable _ | bindingNotInTable .. | statsEntryKept _ | noLimitEntry _
  | limitNotDeleted .. | tablesCleared => "backends::offload::map_based"
  | leftoversKept _ | configuredLimitIgnored .. | nameIgnored .. | upstreamNamed .. | shutDown =>
    "coordinator"
  | duplicateRule .. | ruleNotAdded .. | ruleAdded .. | quotaNotInitialized ..
  | bindingNotStarted .. | noRules _ | noSuchRule .. | ruleNotRemoved .. | ruleRemoved ..
  | bindingNotStopped .. | statsNotCleared .. | nothingToUpdate _ | rulesKept .. =>
    "coordinator::registry"
  | upstreamRenamed .. | countAlreadyZero _ => "coordinator::upstream"
  | limitPending .. | pendingLimitApplied .. | limitStored .. | limitNotSet .. =>
    "coordinator::quota"
  | pollingEvery _ | pollingStopped | pollFailed _ | nothingToPublish | alertDisarmed | alertArmed _
  | alertReached .. => "coordinator::poller"
  | pairAttached .. | pairNotAttached .. | alreadyAttached .. | attachFailed .. | noAttacher _
  | detachFailed .. => "coordinator::attach"
  | downstreamMonitored _ | downstreamNotMonitored _ | monitorNotStarted _ =>
    "coordinator::conntrack"
  | handlesDropped | workerStopped => "service"
  | event _ | eventSkipped _ | eventRejected .. | ruleNotTaken .. | pollingStarted _ | notPolling =>
    "events"
  | statsNotPublished _ | alertNotPublished _ => "stats"

/-- The name of the topic of a notice. -/
def topic (n : Notice) : String :=
  n.subject.elim "tetheroffload" ("tetheroffload::" ++ ·)

end Notice

end FastPath
