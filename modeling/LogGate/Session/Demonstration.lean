import LogGate.Session.Logging

/-!
A demonstration: thresholds by tenant. One tenant is being debugged, and all others log only errors.
-/

namespace LogGate.Act

def demonstrationConfig : Config where
  key := .text "tenant"
  thresholds := .list [Config.textPair "acme" "DEBUG", Config.textPair "globex" "WARN"]
  defaultThreshold := .text "ERROR"
  onMatch := .text "ACCEPT"
  onMismatch := .text "DENY"

def tenants : List String := ["acme", "globex", "initech"]

def logText (context : Context) (target : Option String) (level : Int) (message : String) :
    Act String :=
  log context target level (.text message) [] []

/-- Every tenant makes one request, with one event at each of three levels. -/
def serveTenants (context : Context) (target : Option String) (config : Nat) :
    List String → Act String
  | [] => pure ""
  | tenant :: rest => do
    let request ← nextRequest
    let inside := Fields.put (Fields.put context (.text "request_id") request)
      (.text "tenant") (.text tenant)
    let loaded ← logText inside target 10 "Loaded tenant settings"
    let quota ← logText inside target 30 "Quota at 90%"
    let (_, payment) ← logWithContext inside target (.text "error") (.text "Payment failed")
      (some config) [("amount", .int 42)]
    return loaded ++ quota ++ payment ++ (← serveTenants context target config rest)

/-- All lines that the demonstration writes. -/
def demonstrate (context : Context) : Act String := do
  let config ← addConfig demonstrationConfig
  let target ← getLogger (.text "tenant_service") (some config)
  let starting ← logText context target 20 "Service starting"
  let served ← serveTenants context target config tenants
  let warmed ← logText (Fields.put context (.text "tenant") (.text "acme")) target 10 "Cache warmed"
  return starting ++ served ++ warmed

end LogGate.Act
