import FastPath.Controller.Requests

/-!
# Start and end of a controller

A controller starts by dropping what an earlier run left behind and taking the configured limits. It
ends by taking everything down again and publishing the traffic that is left.
-/

namespace FastPath

namespace Controller

/-- Take a configured limit. -/
def configureLimit (c : Controller) (limit : String × Quota) : Controller :=
  match c.setLimit limit.1 limit.2 with
  | (.ok (), c) => c
  | (.error e, c) => c.note (.configuredLimitIgnored limit.1 e)

/-- Start a controller with a configuration. -/
def start (config : Config) (source : Source) (attacher : Bool) (p : Platform) : Controller :=
  let (backend, chosen) := source.select config.offloadEnabled
  let c := (idle p backend config.pollIntervalMs attacher).note chosen
  let c := c.withBackend fun b c => c.attempt b.clearAll .leftoversKept
  config.dataLimits.toList.foldl configureLimit c

/-- Take everything down: polling, rules, programs and monitoring. The last traffic is published
once the rules are gone. -/
def shutDown (c : Controller) : Controller :=
  c.stopPolling.withBackend fun _ c =>
    let c := c.registry.downstreams.foldl (fun c d => c.clearRules d) c
    let c := c.pushStats.changeAttachments Attachments.detachAll
    (c.changeMonitoring Monitoring.removeAll).note .shutDown

end Controller

end FastPath
