import EventConsole.Demo.Server
import EventConsole.Event
import EventConsole.Proofs.Demo.Sample
import EventConsole.Proofs.Time.TextOrder

/-!
Contract: what a server has in stock when it starts.

The draws agree with one another: severity and message fit the activity, and the
address is one of the sample network. A record repeats them in its members and in
its log line. The store puts records in the order of the texts of their times,
which is that of their instants.

Owns: the agreement of what is drawn, generated events as a client sees them, and
the order of the store that they fill.
-/

namespace EventConsole.Demo

open Json EventConsole.Random

/-- An address of the sample network. -/
def IsSampleAddress (text : String) : Prop :=
  ∃ third fourth : Nat, third ≤ 255 ∧ fourth ≤ 255 ∧
    text = "192.168." ++ toString third ++ "." ++ toString fourth

/-- One text stands somewhere in another. -/
def Within (part whole : String) : Prop := part.toList <:+: whole.toList

theorem within_append (before part after : String) : Within part (before ++ part ++ after) :=
  ⟨before.toList, after.toList, by simp only [String.toList_append]⟩

/-! ### Samples -/

/-- The activities whose message names the address. -/
def Activity.namesAddress : Activity → Bool
  | .userLogin | .authFailure | .networkConnection => true
  | _ => false

/-- The activities that are always high. -/
def Activity.isGrave : Activity → Bool
  | .authFailure | .privilegeEscalation => true
  | _ => false

private theorem Activity.isGrave_of_name {activity : Activity}
    (listed : activity.name ∈ ["auth_failure", "privilege_escalation"]) :
    activity.isGrave = true := by
  cases activity with
  | authFailure | privilegeEscalation => rfl
  | userLogin | systemEvent | fileAccess | networkConnection | processStart | configChange =>
      exact absurd listed (by decide)

private theorem Activity.namesAddress_of_name {activity : Activity}
    (listed : activity.name ∈ ["user_login", "auth_failure", "network_connection"]) :
    activity.namesAddress = true := by
  cases activity with
  | userLogin | authFailure | networkConnection => rfl
  | systemEvent | fileAccess | processStart | privilegeEscalation | configChange =>
      exact absurd listed (by decide)

namespace Sample

/-- What is drawn later fits what was drawn before. -/
structure Agrees (sample : Sample) : Prop where
  severity : sample.activity.isGrave = true → sample.severity = "high"
  address : IsSampleAddress sample.sourceIp
  message : sample.activity.namesAddress = true → Within sample.sourceIp sample.message

private theorem drawIp_isSampleAddress : Always drawIp IsSampleAddress := by
  unfold drawIp
  refine always_bind (below32_lt (by decide)) fun third thirdSmall => ?_
  refine always_bind (below32_lt (by decide)) fun fourth fourthSmall => ?_
  exact always_pure
    ⟨third, fourth, Nat.le_of_lt_succ thirdSmall, Nat.le_of_lt_succ fourthSmall, rfl⟩

private theorem within_sshAccount (verb : String) (actor : Actor) :
    Within actor.ip (sshAccount verb actor).message := by
  have around := within_append (verb ++ " password for " ++ actor.user ++ " from ") actor.ip
    (" port " ++ toString actor.port ++ " ssh2")
  simpa only [sshAccount, String.append_assoc] using around

private theorem drawAccount_within (activity : Activity) (actor : Actor) :
    Always (drawAccount activity actor) fun account =>
      activity.namesAddress = true → Within actor.ip account.message := by
  cases activity with
  | userLogin => exact always_pure fun _ => within_sshAccount "Accepted" actor
  | authFailure => exact always_pure fun _ => within_sshAccount "Failed" actor
  | networkConnection =>
      have around := within_append "New connection from " actor.ip
        (" to port " ++ toString actor.port ++ " via " ++ actor.process)
      exact always_pure fun _ => by simpa only [String.append_assoc] using around
  | systemEvent | fileAccess | processStart | privilegeEscalation | configChange =>
      exact (always_any _).imp fun _ _ names => absurd names Bool.false_ne_true

private theorem severityOf_eq_high {activity : Activity} (isGrave : activity.isGrave = true)
    (drawn : String) : severityOf activity drawn = "high" := by
  cases activity with
  | authFailure | privilegeEscalation => rfl
  | userLogin | systemEvent | fileAccess | networkConnection | processStart | configChange =>
      contradiction

private theorem draw_agrees : Always draw Agrees := by
  unfold draw
  refine always_bind (always_any _) fun secondsAgo _ => ?_
  refine always_bind (always_any _) fun activity _ => ?_
  refine always_bind (always_any _) fun severity _ => ?_
  refine always_bind (always_any _) fun user _ => ?_
  refine always_bind (always_any _) fun process _ => ?_
  refine always_bind drawIp_isSampleAddress fun ip isAddress => ?_
  refine always_bind (always_any _) fun port _ => ?_
  refine always_bind (drawAccount_within activity _) fun account names => ?_
  -- The rest is drawn without regard to these.
  refine always_bind (always_any _) fun hostname _ => ?_
  refine always_bind (always_any _) fun logPid _ => ?_
  refine always_bind (always_any _) fun suffix _ => ?_
  refine always_bind (always_any _) fun agentId _ => ?_
  refine always_bind (always_any _) fun source _ => ?_
  exact always_pure ⟨fun isGrave => severityOf_eq_high isGrave severity, isAddress, names⟩

end Sample

/-! ### Generated events -/

/-- A record has a text under a name. -/
def HasText (event : Value) (name text : String) : Prop := event.member? name = some (.string text)

/-- What a client finds in a generated event. -/
structure WellFormed (event : Value) : Prop where
  decodes : (Event.ofJson? event).isSome = true
  eventType : ∃ activity : Activity, HasText event "event_type" activity.name
  high : ∀ eventType ∈ ["auth_failure", "privilege_escalation"],
    HasText event "event_type" eventType → HasText event "severity" "high"
  address : ∃ address, HasText event "source_ip" address ∧ IsSampleAddress address
  log : ∃ rawLog hostname process message,
    HasText event "raw_log" rawLog ∧ HasText event "hostname" hostname ∧
      HasText event "process" process ∧ HasText event "message" message ∧
      Within hostname rawLog ∧ Within process rawLog ∧ message.toList <:+ rawLog.toList
  message : ∀ eventType ∈ ["user_login", "auth_failure", "network_connection"],
    HasText event "event_type" eventType → ∃ address message,
      HasText event "source_ip" address ∧ HasText event "message" message ∧ Within address message

namespace Sample

private theorem name_eq_of_hasText {sample : Sample} {now : Time.Instant} {eventType : String}
    (isType : HasText (sample.record now) "event_type" eventType) :
    sample.activity.name = eventType := Value.string.inj (Option.some.inj isType)

/-- The log line is put together from the texts that stand in it. -/
theorem logLine_parts (sample : Sample) (now : Time.Instant) :
    Within sample.hostname (sample.logLine now) ∧ Within sample.process (sample.logLine now) ∧
      sample.message.toList <:+ (sample.logLine now).toList := by
  have hostname := within_append (logTime (sample.instant now) ++ " ") sample.hostname
    (" " ++ sample.process ++ "[" ++ toString sample.logPid ++ "]: " ++ sample.message)
  have process := within_append (logTime (sample.instant now) ++ " " ++ sample.hostname ++ " ")
    sample.process ("[" ++ toString sample.logPid ++ "]: " ++ sample.message)
  refine ⟨?_, ?_, ?_⟩
  · simpa only [logLine, String.append_assoc] using hostname
  · simpa only [logLine, String.append_assoc] using process
  · rw [logLine, String.toList_append]
    exact List.suffix_append _ _

private theorem wellFormed_record {sample : Sample} (agrees : sample.Agrees) (now : Time.Instant) :
    WellFormed (sample.record now) where
  decodes := rfl
  eventType := ⟨sample.activity, rfl⟩
  high := by
    intro eventType listed isType
    obtain rfl := name_eq_of_hasText isType
    exact congrArg (fun text => some (Value.string text))
      (agrees.severity (Activity.isGrave_of_name listed))
  address := ⟨sample.sourceIp, rfl, agrees.address⟩
  log := ⟨sample.logLine now, sample.hostname, sample.process, sample.message, rfl, rfl, rfl, rfl,
    sample.logLine_parts now⟩
  message := by
    intro eventType listed isType
    obtain rfl := name_eq_of_hasText isType
    exact ⟨sample.sourceIp, sample.message, rfl, rfl,
      agrees.message (Activity.namesAddress_of_name listed)⟩

end Sample

/-! ### The store -/

namespace Store

theorem notBefore_iff {a b : Value} :
    notBefore a b = true ↔ b.textMember "timestamp" ≤ a.textMember "timestamp" := by
  rw [notBefore, bne_iff_ne, ne_eq, ← String.not_lt]
  exact not_congr compareOfLessAndEq_eq_lt

private theorem pairwise_ofEvents (events : List Value) :
    (ofEvents events).events.Pairwise fun a b =>
      b.textMember "timestamp" ≤ a.textMember "timestamp" := by
  refine (List.pairwise_mergeSort ?trans ?total events).imp notBefore_iff.mp
  case trans =>
    intro a b c
    simp only [notBefore_iff]
    exact fun first second => String.le_trans second first
  case total =>
    intro a b
    simp only [Bool.or_eq_true, notBefore_iff]
    exact String.le_total _ _

end Store

/-- When an event says that it happened. -/
def timeOf? (event : Value) : Option Time.Stamp :=
  match event.member? "timestamp" with
  | some (.string text) => Time.Rfc3339.parse? text.toList
  | _ => none

/-- A store holds the events that were generated, and from each event to the next
the time does not increase. -/
structure NewestFirst (events generated : List Value) : Prop where
  perm : events.Perm generated
  timed : ∀ event ∈ events, (timeOf? event).isSome = true
  ordered : events.Pairwise fun newer older => ∀ stamp ∈ timeOf? newer, ∀ other ∈ timeOf? older,
    stamp.instant.before other.instant = false

section Order

variable {now : Time.Instant} (onScale : now.OnScale) (years : 1 ≤ now.year ∧ now.year ≤ 9999)

include onScale years

theorem timeOf?_record {sample : Sample} (within : sample.WithinDraws) :
    timeOf? (sample.record now) = some ⟨(sample.instant now).wholeSecond, 0⟩ :=
  Sample.parse?_stampText onScale years within

/-- Of two records the one with the greater text did not happen before. -/
theorem not_before_of_text_le {sample other : Sample} (within : sample.WithinDraws)
    (otherWithin : other.WithinDraws)
    (noGreater : Sample.stampText (other.instant now) ≤ Sample.stampText (sample.instant now)) :
    (sample.instant now).wholeSecond.before (other.instant now).wholeSecond = false := by
  rw [← Bool.not_eq_true]
  intro earlier
  apply String.not_lt.mpr noGreater
  rw [String.lt_iff, Sample.stampText, Sample.stampText, String.toList_ofList, String.toList_ofList]
  exact Time.Instant.secondsText_lt (Time.Instant.onScale_minusSeconds onScale _)
    (Time.Instant.year_minusSeconds years (Nat.le_of_lt within.secondsAgo))
    (Time.Instant.year_minusSeconds years (Nat.le_of_lt otherWithin.secondsAgo)) earlier

private theorem newestFirst_records {samples : List Sample}
    (within : ∀ sample ∈ samples, sample.WithinDraws) :
    NewestFirst (Store.ofEvents (samples.map fun sample => sample.record now)).events
      (samples.map fun sample => sample.record now) := by
  have perm := List.mergeSort_perm (samples.map fun sample => sample.record now) Store.notBefore
  have isRecord (event) (isEvent : event ∈ (Store.ofEvents _).events) :
      ∃ sample ∈ samples, sample.record now = event :=
    List.mem_map.mp (perm.mem_iff.mp isEvent)
  refine ⟨perm, ?timed, ?ordered⟩
  case timed =>
    intro event isEvent
    obtain ⟨sample, isSample, rfl⟩ := isRecord event isEvent
    rw [timeOf?_record onScale years (within sample isSample)]
    rfl
  case ordered =>
    refine (Store.pairwise_ofEvents _).imp_of_mem fun {newer older} isNewer isOlder noGreater => ?_
    obtain ⟨sample, isSample, rfl⟩ := isRecord newer isNewer
    obtain ⟨other, isOther, rfl⟩ := isRecord older isOlder
    rw [timeOf?_record onScale years (within sample isSample),
      timeOf?_record onScale years (within other isOther)]
    rintro stamp ⟨⟩ otherStamp ⟨⟩
    exact not_before_of_text_le onScale years (within sample isSample) (within other isOther)
      noGreater

end Order

/-- For every seed there are as many events as were asked for, they are well formed, and
a server starts with all of them, the newest first. -/
theorem stocked_new (count : Nat) (seed : UInt64) {now : Time.Instant} (onScale : now.OnScale)
    (years : 1 ≤ now.year ∧ now.year ≤ 9999) :
    (generate count seed now).length = count ∧
      (∀ event ∈ generate count seed now, WellFormed event) ∧
        ∀ config : Config, config.events.toNat = count → config.seed = seed →
          NewestFirst (Server.new config now).store.events (generate count seed now) := by
  refine ⟨length_generate count seed now, ?_, ?_⟩
  · rw [generate, List.forall_mem_map]
    intro sample member
    exact Sample.wellFormed_record
      (Sample.forall_mem_drawMany Sample.draw_agrees count (Source.ofSeed seed) sample member) now
  · rintro config rfl rfl
    exact newestFirst_records onScale years
      (Sample.withinDraws_of_mem config.events.toNat (Source.ofSeed config.seed))

/-- The last second of the years that are written with four digits. -/
def lastSecond : Time.Instant := ⟨253402300799, 999999999⟩

theorem stocked_lastSecond :
    lastSecond.OnScale ∧ lastSecond.year = 9999 ∧
      (∀ event ∈ generate 150 0x51357019 lastSecond, WellFormed event) ∧
      NewestFirst (Server.new Config.default lastSecond).store.events
        (generate 150 0x51357019 lastSecond) := by
  have onScale : lastSecond.OnScale := .inl (by decide)
  have year : lastSecond.year = 9999 := by decide
  obtain ⟨-, formed, stocked⟩ := stocked_new 150 0x51357019 onScale (by rw [year]; decide)
  exact ⟨onScale, year, formed, stocked Config.default rfl rfl⟩

end EventConsole.Demo
