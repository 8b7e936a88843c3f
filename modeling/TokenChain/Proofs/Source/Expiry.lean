import TokenChain.Proofs.Task.Alone
import TokenChain.Proofs.Time.LocalText
import TokenChain.Source.DeveloperTool

/-! # When the token of a developer tool expires

A tool that is run within its limit and does its work writes an output (`ToolSource.Prints`), and
what the source gives is what the output says in the zone of the place (`ToolSource.run_getToken`).

`az` writes the expiry as a number of seconds, as the time that a wall shows, or as both. The number
decides if it lies in the calendar. If it does not, the wall time does (`ToolSource.AzToken.Dated`):
one that is shown once gives its instant, one that is skipped is refused, but for the second at
which the clocks go forward, which gives the instants that follow. -/

namespace TokenChain.ToolSource

open TokenChain.Json TokenChain.Task TokenChain.Surroundings TokenChain.Text

/-! ### A tool that does its work -/

section
variable {s : ToolSource} {r : Request} {w : World Surroundings} {stdout : List UInt8}

/-- **The tool does its work** for a request and writes an output. -/
structure Prints (s : ToolSource) (r : Request) (w : World Surroundings) (stdout : List UInt8) :
    Prop where
  asked : ∃ args, s.arguments r = .ok args
  alive : w.cancelled r.cancel = false
  limited : ∃ limitEnd, w.now.after? s.timeout = some limitEnd
  exits : ∃ status stderr, w.state.tools.nextOutcome s.tool = some (.exited status stdout stderr) ∧
    status.isSuccess = true

/-- The token that an output holds for a request. -/
def tokenOf (s : ToolSource) (r : Request) (zone : Zone) (stdout : List UInt8) :
    Except Error Token :=
  (readOutput s.tool zone stdout).map fun read => ⟨read.1, read.2, r.scopes⟩

theorem run_run (prints : s.Prints r w stdout) (args : List String) :
    ∃ w', (s.run r args).run w = (w', .done (.ok stdout)) ∧ w'.state.zone = w.state.zone := by
  obtain ⟨-, alive, ⟨limitEnd, limited⟩, ⟨status, stderr, exits, success⟩⟩ := prints
  have outcome : s.result (.exited status stdout stderr) = .ok stdout := by
    rw [result, if_pos success]
  simp only [run, Request.within, Request.limitEnd?, limited, Option.map_some, alive,
    Bool.false_eq_true, if_false, Task.run, onTools, Tools.run, Task.zoom, exits, Task.bind,
    Task.giveUp, outcome]
  exact ⟨_, rfl, rfl⟩

theorem run_fetch (prints : s.Prints r w stdout) :
    ∃ w', (s.fetch r).run w = (w', .done (s.tokenOf r w.state.zone stdout)) := by
  obtain ⟨args, asked⟩ := prints.asked
  obtain ⟨w', ran, zone⟩ := run_run prints args
  rw [fetch, asked]
  dsimp only
  rw [run_bind, ran, Pause.bind, Task.run, zone, tokenOf]
  cases readOutput s.tool w.state.zone stdout <;> exact ⟨_, rfl⟩

/-- **What the source gives** is what the output says. -/
theorem run_getToken (prints : s.Prints r w stdout) :
    ∃ w', (s.source.getToken r).run w = (w', .done (s.tokenOf r w.state.zone stdout)) := by
  obtain ⟨w', fetched⟩ := run_fetch prints
  have reported : ∃ w', (Source.reported s.tool.credential (s.fetch r)).run w =
      (w', .done (s.tokenOf r w.state.zone stdout)) := by
    rw [Source.reported, Task.run, run_bind, fetched]
    exact ⟨_, rfl⟩
  obtain ⟨w', reported⟩ := reported
  rw [source]
  dsimp only
  rw [run_bind, reported]
  exact ⟨_, rfl⟩

end

/-! ### What `az` writes -/

namespace AzToken

/-- The token that `az` writes. -/
def read? (stdout : List UInt8) : Option AzToken := (Document.read? stdout).bind AzToken.ofDocument?

/-- **What comes of a written token**: what is written about its expiry decides. -/
structure Dated (a : AzToken) (zone : Zone) (scopes : List String) (result : Except Error Token) :
    Prop where
  /-- A number in the calendar decides, whatever text there is. -/
  numbered : ∀ n ∈ a.expiry, Timestamp.inCalendar n = true →
    result = .ok ⟨a.accessToken, ⟨n, 0⟩, scopes⟩
  /-- Without such a number, a wall time that is shown once gives its instant. -/
  shown : (∀ n ∈ a.expiry, Timestamp.inCalendar n = false) → ∀ text ∈ a.localExpiry, ∀ t : Instant,
    zone.Unambiguous (.ofInstant t) → 1970 ≤ (WallTime.ofTimestamp (.ofInstant t)).date.year →
    (WallTime.ofTimestamp (.ofInstant t)).date.year ≤ 9998 →
    ∀ cs, LocalText.Writes (zone.wallTime (.ofInstant t)) cs → Padded cs text.toList →
      result = .ok ⟨a.accessToken, .ofInstant t, scopes⟩
  /-- A wall time that is skipped is refused, unless the clocks go forward in this second. -/
  skipped : (∀ n ∈ a.expiry, Timestamp.inCalendar n = false) → ∀ text ∈ a.localExpiry, ∀ wall,
    LocalText.Names text wall → zone.Skipped wall →
    (∀ second, ¬ zone.JumpsAt wall.utcSecond second) →
      result = .error (badExpiry .az (some text))
  /-- In the second in which the clocks go forward, a wall time gives what follows. -/
  jumped : (∀ n ∈ a.expiry, Timestamp.inCalendar n = false) → ∀ text ∈ a.localExpiry, ∀ wall,
    LocalText.Names text wall → ∀ second, zone.JumpsAt wall.utcSecond second →
    Timestamp.inCalendar second = true →
      result = .ok ⟨a.accessToken, ⟨second, wall.nanos⟩, scopes⟩

/-- A number in the calendar is the expiry. -/
theorem expiresAt_of_number {a : AzToken} {n : Int} (given : n ∈ a.expiry)
    (inside : Timestamp.inCalendar n = true) (zone : Zone) : a.expiresAt zone = .ok ⟨n, 0⟩ := by
  rw [Option.mem_def] at given
  rw [expiresAt, given, Option.bind_some, Timestamp.ofSeconds?, if_pos inside]

/-- Without such a number, what the text names is the expiry. -/
theorem expiresAt_of_text {a : AzToken} {text : String}
    (outside : ∀ n ∈ a.expiry, Timestamp.inCalendar n = false) (given : text ∈ a.localExpiry)
    {wall : WallTime} (names : LocalText.Names text wall) (zone : Zone) :
    a.expiresAt zone = (zone.timestamp? wall).elim (.error (badExpiry .az (some text))) .ok := by
  have none : a.expiry.bind Timestamp.ofSeconds? = none := by
    rw [Option.bind_eq_none_iff]
    intro n given
    rw [Timestamp.ofSeconds?, outside n given]
    rfl
  rw [Option.mem_def] at given
  rw [LocalText.Names] at names
  rw [expiresAt, none, given, Option.bind_some, names, Option.bind_some]
  cases zone.timestamp? wall <;> rfl

theorem dated {a : AzToken} {zone : Zone} {rule : String} (zoned : Zone.ofRule? rule = some zone)
    (scopes : List String) :
    a.Dated zone scopes ((a.expiresAt zone).map fun expiry => ⟨a.accessToken, expiry, scopes⟩) where
  numbered n given inside := by rw [expiresAt_of_number given inside, Except.map]
  shown outside text given t once since until_ cs writes padded := by
    obtain ⟨low, high, inside⟩ := Zone.year_wallTime_bounds zoned since until_
    have short : (Timestamp.ofInstant t).nanos < 1000000000 := by
      rw [Timestamp.ofInstant]
      dsimp only
      omega
    have names :=
      LocalText.names_of_writes writes padded (WallTime.proper_ofTimestamp _) low high short
    rw [expiresAt_of_text outside given names, Zone.timestamp?_wallTime once inside,
      Option.elim_some, Except.map]
  skipped outside text given wall names skips later := by
    rw [expiresAt_of_text outside given names, Zone.timestamp?_of_skipped names.proper skips later,
      Option.elim_none, Except.map]
  jumped outside text given wall names second jumps inside := by
    rw [expiresAt_of_text outside given names, Zone.timestamp?_of_jumpsAt names.proper jumps inside,
      Option.elim_some, Except.map]

end AzToken

theorem run_getToken_az {s : ToolSource} {r : Request} {w : World Surroundings}
    {stdout : List UInt8} (prints : s.Prints r w stdout) (az : s.tool = .az) {a : AzToken}
    (reads : AzToken.read? stdout = some a) : ∃ w', (s.source.getToken r).run w =
      (w', .done ((a.expiresAt w.state.zone).map fun expiry =>
        ⟨a.accessToken, expiry, r.scopes⟩)) := by
  obtain ⟨w', got⟩ := run_getToken prints
  have token : s.tokenOf r w.state.zone stdout =
      (a.expiresAt w.state.zone).map fun expiry => ⟨a.accessToken, expiry, r.scopes⟩ := by
    rw [AzToken.read?] at reads
    rw [tokenOf, az, readOutput, reads]
    dsimp only
    cases a.expiresAt w.state.zone <;> rfl
  rw [token] at got
  exact ⟨w', got⟩

/-- **A token that `az` writes** expires when the number or the wall time in the output says. -/
theorem dated_of_prints {s : ToolSource} {r : Request} {w : World Surroundings}
    {stdout : List UInt8} (prints : s.Prints r w stdout) (az : s.tool = .az) {a : AzToken}
    (reads : AzToken.read? stdout = some a) {rule : String}
    (zoned : Zone.ofRule? rule = some w.state.zone) :
    ∃ w' result, (s.source.getToken r).run w = (w', .done result) ∧
      a.Dated w.state.zone r.scopes result := by
  obtain ⟨w', got⟩ := run_getToken_az prints az reads
  exact ⟨w', _, got, AzToken.dated zoned r.scopes⟩

/-! ### Around the change of the clocks -/

/-- A place in the east of North America where `az` is installed and writes an output. -/
def eastern (output : String) : World Surroundings :=
  .initial ⟨0⟩ (.ofCapacity 8)
    { zone := .summer (-18000), wire := ⟨[], []⟩, files := Files.initial
      tools := ⟨[some (.exited (.code 0) (Utf8.encode output) [])], [], [], []⟩
      gates := fun _ => .untested, rehearsals := fun _ => [] }

/-- A request for a token for a directory. -/
def graphRequest : Request := ⟨["https://graph.microsoft.com/.default"], none, 0⟩

theorem prints_eastern (output : String) :
    (standard .az).Prints graphRequest (eastern output) (Utf8.encode output) where
  asked := ⟨["account", "get-access-token", "--output", "json", "--resource",
    "https://graph.microsoft.com"], rfl⟩
  alive := rfl
  limited := ⟨⟨13000000000⟩, rfl⟩
  exits := ⟨.code 0, [], rfl, rfl⟩

/-- What `az` writes in its older versions, and a number that no calendar holds. -/
def autumnOutput : String :=
  "\x7b\"accessToken\":\"t\",\"expiresOn\":\" 2031-11-02 00:59:59.999999\",\"expires_on\":8210266876800\x7d"

theorem read?_autumnOutput : AzToken.read? (Utf8.encode autumnOutput) =
    some ⟨"t", some " 2031-11-02 00:59:59.999999", some 8210266876800⟩ := by decide +kernel

/-- The last microsecond before the hour that comes twice in the autumn of 2031 gives its
instant. -/
theorem dated_of_prints_autumn : ∃ w',
    ((standard .az).source.getToken graphRequest).run (eastern autumnOutput) =
      (w', .done (.ok ⟨"t", .ofInstant ⟨1951361999999999000⟩, graphRequest.scopes⟩)) := by
  have zoned : Zone.ofRule? "EST5EDT,M3.2.0,M11.1.0" = some (eastern autumnOutput).state.zone := rfl
  obtain ⟨w', result, got, dated⟩ :=
    dated_of_prints (prints_eastern autumnOutput) rfl read?_autumnOutput zoned
  refine ⟨w', ?_⟩
  rw [got, dated.shown (by rintro _ ⟨⟩; decide) _ rfl ⟨1951361999999999000⟩ ?_
    (by decide) (by decide) _ (.micros (n := 999999) (by decide)) ⟨[' '],
      [], by decide +kernel, List.forall_mem_singleton.mpr rfl, nofun⟩]
  exact (Zone.unambiguous_summer_iff rfl).mpr (.inl (by decide))

/-- What `az` writes about a time that is skipped. -/
def springOutput : String := "\x7b\"accessToken\":\"t\",\"expiresOn\":\"2031-03-09 02:00:00\"\x7d"

theorem read?_springOutput :
    AzToken.read? (Utf8.encode springOutput) = some ⟨"t", some "2031-03-09 02:00:00", none⟩ := by
  decide +kernel

/-- **A skipped time that is not refused**: in the spring of 2031 the walls of the place show
03:00:00 when it should be 02:00:00, but this time gives the instant at which they do. -/
theorem token_of_skipped : LocalText.Names "2031-03-09 02:00:00" ⟨⟨2031, 3, 9⟩, 7200, 0⟩ ∧
    (Zone.summer (-18000)).Skipped ⟨⟨2031, 3, 9⟩, 7200, 0⟩ ∧
    ∃ w', ((standard .az).source.getToken graphRequest).run (eastern springOutput) =
      (w', .done (.ok ⟨"t", ⟨1930806000, 0⟩, graphRequest.scopes⟩)) := by
  have names : LocalText.Names "2031-03-09 02:00:00" ⟨⟨2031, 3, 9⟩, 7200, 0⟩ := by
    rw [LocalText.Names]
    decide +kernel
  refine ⟨names, (Zone.skipped_summer_iff ⟨by decide, by decide⟩).mpr (by decide), ?_⟩
  obtain ⟨w', got⟩ := run_getToken_az (prints_eastern springOutput) rfl read?_springOutput
  exact ⟨w', got⟩

end TokenChain.ToolSource
