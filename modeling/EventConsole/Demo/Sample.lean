import EventConsole.Json.Value
import EventConsole.Random.Source
import EventConsole.Time.Rfc3339

/-!
Contract: generated sample events.

A sample is drawn without regard to the time: it says how long ago it happened.
Only its record puts it before some instant. The order of the draws is fixed, so
that a seed always gives the same samples.
-/

namespace EventConsole.Demo

open EventConsole.Random

inductive Activity where
  | userLogin
  | authFailure
  | systemEvent
  | fileAccess
  | networkConnection
  | processStart
  | privilegeEscalation
  | configChange
deriving DecidableEq, Repr

def Activity.name : Activity → String
  | .userLogin => "user_login"
  | .authFailure => "auth_failure"
  | .systemEvent => "system_event"
  | .fileAccess => "file_access"
  | .networkConnection => "network_connection"
  | .processStart => "process_start"
  | .privilegeEscalation => "privilege_escalation"
  | .configChange => "config_change"

/-- What is drawn for one event. -/
structure Sample where
  secondsAgo : Nat
  activity : Activity
  severity : String
  user : String
  process : String
  source : String
  sourceIp : String
  hostname : String
  message : String
  command : String
  agentId : String
  /-- Process number in the log line. -/
  logPid : Nat
  /-- End of the identifier. -/
  suffix : Nat
deriving DecidableEq, Repr

namespace Sample

/-! ### Draws -/

def drawSecondsAgo : Draw Nat := do
  let hours ← below64 24
  let minutes ← below64 60
  let seconds ← below64 60
  return hours * 3600 + minutes * 60 + seconds

def drawActivity : Draw Activity :=
  pick .userLogin
    [.authFailure, .systemEvent, .fileAccess, .networkConnection, .processStart,
      .privilegeEscalation, .configChange]

/-- Of a hundred samples 40 are low, 35 medium, 17 high and 8 critical. -/
def drawSeverity : Draw String := do
  let percent ← below32 100
  return if percent < 40 then "low" else if percent < 75 then "medium"
    else if percent < 92 then "high" else "critical"

def drawUser : Draw String :=
  pick "admin"
    ["root", "developer", "operator", "security", "guest", "service_account", "backup_user",
      "nginx", "postgres"]

def drawProcess : Draw String :=
  pick "sshd"
    ["sudo", "systemd", "nginx", "postgres", "docker", "cron", "auditd", "firewalld", "journald"]

def drawAgent : Draw String :=
  pick "agent-ubuntu-01"
    ["agent-centos-02", "agent-debian-03", "agent-arch-04", "agent-fedora-05"]

def drawSource : Draw String :=
  pick "auth" ["syslog", "audit", "kernel", "application", "security"]

def drawHostname : Draw String :=
  pick "webserver-01" ["dbserver-02", "appserver-03", "monitoring-04", "gateway-05"]

def drawSensitiveFile : Draw String :=
  pick "/etc/passwd"
    ["/etc/shadow", "/var/log/auth.log", "/etc/ssh/sshd_config", "/root/.ssh/authorized_keys"]

def drawConfigFile : Draw String :=
  pick "/etc/sysconfig/network"
    ["/etc/nginx/nginx.conf", "/etc/ssh/sshd_config", "/etc/firewalld/zones/public.xml"]

def drawPid : Draw Nat := do return 1000 + (← below32 50000)

/-- An address of the sample network. -/
def drawIp : Draw String := do
  let third ← below32 256
  let fourth ← below32 256
  return "192.168." ++ toString third ++ "." ++ toString fourth

/-! ### Texts -/

/-- Who did something, with what, and from where. -/
structure Actor where
  user : String
  process : String
  ip : String
  port : Nat

structure Account where
  message : String
  command : String

def sshAccount (verb : String) (actor : Actor) : Account :=
  let text := verb ++ " password for " ++ actor.user ++ " from " ++ actor.ip ++ " port " ++
    toString actor.port ++ " ssh2"
  ⟨text, text⟩

/-- What an activity leaves in the log. -/
def drawAccount (activity : Activity) (actor : Actor) : Draw Account := do
  match activity with
  | .userLogin => return sshAccount "Accepted" actor
  | .authFailure => return sshAccount "Failed" actor
  | .systemEvent =>
      return ⟨"System event: service " ++ actor.process ++ " status changed to running",
        "systemctl status " ++ actor.process⟩
  | .fileAccess =>
      let read ← drawSensitiveFile
      let shown ← drawSensitiveFile
      return ⟨"File access: " ++ actor.user ++ " read " ++ read, "cat " ++ shown⟩
  | .networkConnection =>
      return ⟨"New connection from " ++ actor.ip ++ " to port " ++ toString actor.port ++ " via " ++
          actor.process,
        "connect " ++ actor.ip ++ ":" ++ toString actor.port⟩
  | .processStart =>
      let pid ← drawPid
      return ⟨"Process " ++ actor.process ++ " (PID " ++ toString pid ++ ") started by " ++
          actor.user,
        "/usr/bin/" ++ actor.process ++ " --daemon"⟩
  | .privilegeEscalation =>
      return ⟨actor.user ++ " escalated privileges via sudo to execute /bin/bash",
        actor.user ++ " : TTY=pts/0 ; PWD=/home/" ++ actor.user ++
          " ; USER=root ; COMMAND=/bin/bash"⟩
  | .configChange =>
      let file ← drawConfigFile
      return ⟨"Configuration file " ++ file ++ " modified by " ++ actor.user, "vim " ++ file⟩

/-- Failures of authentication and escalations are always high. -/
def severityOf (activity : Activity) (drawn : String) : String :=
  match activity with
  | .authFailure | .privilegeEscalation => "high"
  | _ => drawn

/-! ### Samples -/

def draw : Draw Sample := do
  let secondsAgo ← drawSecondsAgo
  let activity ← drawActivity
  let severity ← drawSeverity
  let user ← drawUser
  let process ← drawProcess
  let ip ← drawIp
  let port := 1024 + (← below32 64000)
  let account ← drawAccount activity ⟨user, process, ip, port⟩
  let hostname ← drawHostname
  let logPid ← drawPid
  let suffix ← below32 1000000
  let agentId ← drawAgent
  let source ← drawSource
  return {
    secondsAgo := secondsAgo
    activity := activity
    severity := severityOf activity severity
    user := user
    process := process
    source := source
    sourceIp := ip
    hostname := hostname
    message := account.message
    command := account.command
    agentId := agentId
    logPid := logPid
    suffix := suffix }

/-- Samples one after another from a source. -/
def drawMany : Nat → Source → List Sample
  | 0, _ => []
  | count + 1, source =>
      let drawn := draw.run source
      drawn.1 :: drawMany count drawn.2

/-! ### Records -/

/-- The instant of a sample seen from `now`. -/
def instant (sample : Sample) (now : Time.Instant) : Time.Instant :=
  now.minusSeconds sample.secondsAgo

/-- `May 01 10:00:00` -/
def logTime (instant : Time.Instant) : String :=
  let clock := instant.clock 0
  String.ofList ((Time.monthName clock.date.month).toList ++
    ' ' :: Time.zeroPadded 2 clock.date.day ++ ' ' :: clock.time)

def logLine (sample : Sample) (now : Time.Instant) : String :=
  logTime (sample.instant now) ++ " " ++ sample.hostname ++ " " ++ sample.process ++ "[" ++
    toString sample.logPid ++ "]: " ++ sample.message

/-- Nanoseconds of the instant, or zero out of range, and the random end. -/
def identifier (sample : Sample) (now : Time.Instant) : String :=
  toString ((sample.instant now).epochNanos?.getD 0) ++ "-" ++ toString sample.suffix

def stampText (instant : Time.Instant) : String :=
  String.ofList (Time.Stamp.secondsText ⟨instant, 0⟩)

/-- The stored form of a sample. -/
def record (sample : Sample) (now : Time.Instant) : Json.Value :=
  .object
    [("_id", .string (sample.identifier now)),
      ("agent_id", .string sample.agentId),
      ("timestamp", .string (stampText (sample.instant now))),
      ("batch_time", .string (stampText now)),
      ("event_type", .string sample.activity.name),
      ("severity", .string sample.severity),
      ("user", .string sample.user),
      ("process", .string sample.process),
      ("source", .string sample.source),
      ("source_ip", .string sample.sourceIp),
      ("hostname", .string sample.hostname),
      ("message", .string sample.message),
      ("command", .string sample.command),
      ("raw_log", .string (sample.logLine now))]

end Sample

/-- Events of the day before `now`. -/
def generate (count : Nat) (seed : UInt64) (now : Time.Instant) : List Json.Value :=
  (Sample.drawMany count (Source.ofSeed seed)).map fun sample => sample.record now

end EventConsole.Demo
