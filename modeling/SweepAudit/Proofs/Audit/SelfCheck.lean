import SweepAudit.CommandLine.Run
import SweepAudit.Proofs.Audit.Prediction
import SweepAudit.Proofs.Audit.Traceless
import SweepAudit.Proofs.Client.Seeding
import SweepAudit.Proofs.Credential

/-!
A hosted exchange that is seeded with a ladder and audited at once. Every ladder that comes to
exact numbers, and that the depth shows in full, passes all scenarios: either side is filled
with what the ladder amounts to, and turned down with one unit more.
-/

namespace SweepAudit

open Book Decimal Http

/-- A scenario has passed, with so much funding and so much paid for it. -/
def Report.Filled (report : Report) (side : Side) (funding paid : ℚ) : Prop :=
  ∃ fund expected out : Decimal,
    report = ⟨⟨side, false⟩, .passed, some expected, some fund, some out.canonical, none⟩ ∧
    fund.value = funding ∧ expected.value = paid ∧ out.value = paid

/-- An overfunded scenario has passed: it has been turned down. -/
def Report.TurnedDown (report : Report) (side : Side) (funding : ℚ) : Prop :=
  ∃ fund expected : Decimal,
    report = ⟨⟨side, true⟩, .passed, some expected, some fund, none, none⟩ ∧ fund.value = funding

/-- What one side of a ladder costs. -/
def Ladder.funding (base : ℚ) (depth : Nat) : Side → ℚ
  | .buy => quoteTotal base depth
  | .sell => baseTotal depth

/-- What a sweep of one side of a ladder pays. -/
def Ladder.proceeds (base : ℚ) (depth : Nat) : Side → ℚ
  | .buy => baseTotal depth
  | .sell => quoteTotal base depth

/-- The report on a scenario is the one that a ladder is meant to lead to. -/
def Scenario.Expects (base : ℚ) (depth : Nat) (scenario : Scenario) (report : Report) : Prop :=
  if scenario.overfund then
    report.TurnedDown scenario.side (Ladder.funding base depth scenario.side + 1)
  else
    report.Filled scenario.side (Ladder.funding base depth scenario.side)
      (Ladder.proceeds base depth scenario.side)

theorem Scenario.Expects.passed {base : ℚ} {depth : Nat} {scenario : Scenario} {report : Report}
    (h : scenario.Expects base depth report) : report.passed = true := by
  rw [Expects] at h
  split at h
  · obtain ⟨_, _, rfl, -⟩ := h
    rfl
  · obtain ⟨_, _, _, rfl, -⟩ := h
    rfl

namespace Audit

variable {client : Client} {presented : Presented} {symbol : String} {base : Decimal} {depth : Nat}
  {hosted : Hosted} {idFor : Scenario → Uuid}

/-- One scenario on a seeded book. Afterwards all books are as before. -/
theorem scenario_run (stamps : Stamps) (h : client.Reaches presented symbol)
    (hfits : Ladder.Fits base depth) (hdepth : 1 ≤ depth)
    (hlimit : depth ≤ client.depthLimit.toNat)
    (hbook : (hosted.exchange.book symbol).Seeded base.value fun _ => depth)
    (scenario : Scenario) {id : Uuid}
    (hfresh : ∀ s, (hosted.exchange.book s).auction? id.text = none) :
    ∃ report hosted',
      (scenario.run (client.venue (Hosted.network stamps)) symbol id).run.run hosted =
        (.ok report, hosted') ∧
      scenario.Expects base.value depth report ∧
      hosted'.exchange.Alike hosted.exchange := by
  have halike {result : Except Overflow Report} {hosted' : Hosted}
      (hrun : (scenario.run (client.venue (Hosted.network stamps)) symbol id).run.run hosted =
        (result, hosted')) : hosted'.exchange.Alike hosted.exchange := by
    have hkept := Client.keeps_scenario stamps h.admitted.isLocal hfresh symbol scenario hosted
      fun _ => rfl
    rwa [hrun] at hkept
  obtain ⟨side, overfund⟩ := scenario
  have hexact := hbook.exact hfits
  obtain ⟨hbest, hbehind⟩ := hbook.best_eq side hlimit
  have hcosts : costs side ((hosted.exchange.book symbol).best side client.depthLimit.toNat) =
      Ladder.funding base.value depth side := by
    rw [hbest, hbook.costs_eq]
    cases side <;> rfl
  cases overfund with
  | false =>
    have hne : (hosted.exchange.book symbol).swept side ≠ [] := by
      intro hempty
      have := hbook.length_swept side
      rw [hempty, List.length_nil] at this
      omega
    have hyields : yields side
        ((hosted.exchange.book symbol).best side client.depthLimit.toNat) =
        Ladder.proceeds base.value depth side := by
      rw [hbest]
      cases side
      · exact hbook.costs_eq .buy .sell
      · exact hbook.costs_eq .sell .buy
    obtain ⟨fund, expected, out, hosted', hrun, hfund, hexpected, hout⟩ :=
      Scenario.run_funded h base.scale_le hexact (hfresh symbol) hne
    rw [hcosts] at hfund
    rw [hyields] at hexpected hout
    exact ⟨_, hosted', hrun, ⟨fund, expected, out, rfl, hfund, hexpected, hout⟩, halike hrun⟩
  | true =>
    have hrun := @Scenario.run_overfunded client presented symbol stamps hosted _ id side h
      base.scale_le hexact (hfresh symbol)
    rw [hbehind, costs_nil, if_pos one_pos, hcosts] at hrun
    obtain ⟨fund, expected, hosted', hrun, hfund, -⟩ := hrun
    exact ⟨_, hosted', hrun, ⟨fund, expected, rfl, hfund⟩, halike hrun⟩

/-- Scenarios one after another, whose auctions have ids that are free. -/
theorem runAll_run (stamps : Stamps) (h : client.Reaches presented symbol)
    (hfits : Ladder.Fits base depth) (hdepth : 1 ≤ depth)
    (hlimit : depth ≤ client.depthLimit.toNat) (scenarios : List Scenario)
    {session : Session Hosted}
    (hbook : (session.venue.exchange.book symbol).Seeded base.value fun _ => depth)
    (hfresh : ∀ scenario s,
      (session.venue.exchange.book s).auction? (idFor scenario).text = none) :
    ∃ reports session',
      (runAll (client.venue (Hosted.network stamps)) symbol idFor scenarios).run.run session =
        (.ok reports, session') ∧
      List.Forall₂ (Scenario.Expects base.value depth) scenarios reports := by
  induction scenarios generalizing session with
  | nil => exact ⟨[], session, rfl, .nil⟩
  | cons scenario scenarios ih =>
    obtain ⟨report, hosted', hrun, hexpects, halike⟩ :=
      scenario_run stamps h hfits hdepth hlimit hbook scenario (hfresh scenario)
    have hcounted := Scenario.runCounted_of_run session hrun
    obtain ⟨reports, session', hruns, hall⟩ := @ih
      ⟨hosted', session.tally.record report.verdict⟩ (halike symbol ▸ hbook)
      fun other s => halike s ▸ hfresh other s
    refine ⟨report :: reports, session', ?_, .cons hexpects hall⟩
    rw [runAll, Guarded.run_bind_ok hcounted, if_pos hexpects.passed, Guarded.run_bind_ok hruns]
    rfl

/-- The whole audit of a seeded book. -/
theorem run_seeded (stamps : Stamps) (h : client.Reaches presented symbol)
    (hfits : Ladder.Fits base depth) (hdepth : 1 ≤ depth)
    (hlimit : depth ≤ client.depthLimit.toNat) {session : Session Hosted}
    (hbook : (session.venue.exchange.book symbol).Seeded base.value fun _ => depth)
    (hfresh : ∀ scenario s,
      (session.venue.exchange.book s).auction? (idFor scenario).text = none) :
    ∃ buy sell buyOver sellOver session',
      (Audit.run (client.venue (Hosted.network stamps)) symbol idFor).run.run session =
        (.ok ⟨[buy, sell, buyOver, sellOver]⟩, session') ∧
      buy.Filled .buy (Ladder.quoteTotal base.value depth) (Ladder.baseTotal depth) ∧
      sell.Filled .sell (Ladder.baseTotal depth) (Ladder.quoteTotal base.value depth) ∧
      buyOver.TurnedDown .buy (Ladder.quoteTotal base.value depth + 1) ∧
      sellOver.TurnedDown .sell (Ladder.baseTotal depth + 1) := by
  obtain ⟨reports, session', hruns, hall⟩ :=
    runAll_run stamps h hfits hdepth hlimit Scenario.all hbook hfresh
  have hrun : (Audit.run (client.venue (Hosted.network stamps)) symbol idFor).run.run session =
      (.ok ⟨reports⟩, session') := by
    rw [Audit.run, Guarded.run_bind_ok hruns]
    rfl
  cases hall with
  | @cons _ buy _ _ hbuy hall =>
  cases hall with
  | @cons _ sell _ _ hsell hall =>
  cases hall with
  | @cons _ buyOver _ _ hbuyOver hall =>
  cases hall with
  | @cons _ sellOver _ _ hsellOver hall =>
  cases hall
  exact ⟨buy, sell, buyOver, sellOver, session', hrun, hbuy, hsell, hbuyOver, hsellOver⟩

end Audit

/-- How long a key may be. Of the head of a request, which has the key and the address in it, not
much more is read than four hundred thousand bytes. -/
def Credential.longest : Nat := 262144

/-- A key that is carried to the exchange, and can be read there. -/
structure Credential.Carried (credential : Credential) : Prop where
  plain : credential.value.toList.all isPlainChar = true
  short : credential.value.utf8ByteSize ≤ longest

namespace CommandLine

/-- A run that hosts its exchange and seeds it, with what it has been told. Whatever carries its
requests would hand them to a proxy that the environment names. -/
structure SelfChecks (env : Config.Variables) (arguments : List String) (options : Options)
    (config : Config) : Prop where
  read : Options.read arguments = .ok options
  configured : ∃ loaded, Config.load env = .ok loaded ∧ configure options loaded = .ok config
  hosts : options.hosted = true
  seeds : options.skipSeed = false
  direct : ∀ entry ∈ env, ∀ name ∈ ["http_proxy", "all_proxy"],
    Text.sameLetters entry.1 name = false

variable {σ : Type} {chance : Chance}

/-- A venue that can be seeded is audited as it is then. -/
theorem auditVenue_run {venue : Venue σ} {options : Options} {config : Config}
    {session session' : Session σ} {state : σ} {audit : AuditReport}
    (hseeds : options.skipSeed = false)
    (hseed : ((Ladder.ofDepth config.symbol options.ladderDepth).seed venue
      options.basePrice).run.run session.venue = (.ok (.ok ()), state))
    (haudit : (Audit.run venue config.symbol chance.auctionId).run.run
      { session with venue := state } = (.ok audit, session')) :
    (auditVenue chance venue options config).run.run session = (.ok (.ok audit), session') := by
  rw [auditVenue, hseeds, if_neg Bool.false_ne_true]
  refine (Guarded.run_bind_ok
    (?_ : _ = (Except.ok (Except.ok ()), { session with venue := state }))).trans ?_
  · change Prod.map id (fun state => { session with venue := state })
      (((Ladder.ofDepth config.symbol options.ladderDepth).seed venue
        options.basePrice).run.run session.venue) = _
    rw [hseed]
    rfl
  · change (do
      let audit ← Audit.run venue config.symbol chance.auctionId
      return .ok audit : Guarded (Session σ) (Except Trouble AuditReport)).run.run _ = _
    rw [Guarded.run_bind_ok haudit]
    rfl

theorem ofBase_hosted {client : Client} {port : Port} (h : client.base = Hosted.base port) :
    { Client.ofBase (Hosted.base port) client.credential with depthLimit := client.depthLimit } =
      client := by
  rw [Client.ofBase, trimEnd_base, ← h]

/-- A run whose audit passes ends well. -/
theorem exit_run {network : Network σ} {state : σ} {env : Config.Variables}
    {arguments : List String} {options : Options} {config : Config}
    (h : SelfChecks env arguments options config) {client : Client}
    (hbase : client.base = Hosted.base chance.port)
    (hlimit : config.depthLimit = client.depthLimit)
    (hcredential : config.credential = .ok client.credential) {audit : AuditReport}
    {session : Session Hosted}
    (haudit : (auditVenue chance (client.venue (Hosted.network chance.stamps)) options
      config).run.run ⟨.empty, .empty⟩ = (.ok (.ok audit), session))
    (hpassed : audit.passed = true) : (run chance network state env arguments).exit = 0 := by
  obtain ⟨loaded, hload, hconfigure⟩ := h.configured
  have hover : auditOver chance (Hosted.network chance.stamps) .empty (Hosted.base chance.port)
      client.credential options config = .ofAudit audit := by
    rw [auditOver, hlimit, ofBase_hosted hbase, haudit]
  have hrun : run chance network state env arguments = .ofAudit audit := by
    rw [run, h.read]
    simp only [hload, hconfigure, hcredential, h.hosts, if_true, hover]
  rw [hrun, Outcome.ofAudit, if_pos hpassed]

end CommandLine

namespace Audit

/-- Every ladder that comes to exact numbers and that the depth shows in full passes the audit, if
the symbol leaves the address of the depth short enough to be asked: either side is filled with
what the ladder amounts to, and turned down with one unit more. This holds whatever has happened
to the exchange before, and a run that hosts its exchange ends well. -/
theorem selfCheck_passes {client : Client} {chance : CommandLine.Chance} {scheme : Scheme}
    {key symbol : String} {levels : UInt32} {base : Decimal}
    (hbase : client.base = Hosted.base chance.port)
    (hkey : Credential.ofKey scheme key = .ok client.credential)
    (hcarried : client.credential.Carried)
    (hsymbol : symbol ≠ "" ∧ ∀ c ∈ symbol.toList, c.isAlphanum = true ∨ c = '-')
    (hlength : (client.base ++ client.depthPath symbol).utf8ByteSize ≤ Url.maxLength)
    (hlevels : 1 ≤ levels.toNat ∧ levels.toNat ≤ client.depthLimit.toNat ∧
      client.depthLimit.toNat ≤ 1000)
    (hfits : Ladder.Fits base levels.toNat) :
    (∀ (hosted : Hosted) (tally : Tally) (idFor : Scenario → Uuid),
      (∀ scenario s, (hosted.exchange.book s).auction? (idFor scenario).text = none) →
      ∃ seeded buy sell buyOver sellOver session,
        ((Ladder.ofDepth symbol levels).seed (client.venue (Hosted.network chance.stamps))
          base).run.run hosted = (.ok (.ok ()), seeded) ∧
        (Audit.run (client.venue (Hosted.network chance.stamps)) symbol idFor).run.run
          ⟨seeded, tally⟩ = (.ok ⟨[buy, sell, buyOver, sellOver]⟩, session) ∧
        buy.Filled .buy (Ladder.quoteTotal base.value levels.toNat)
          (Ladder.baseTotal levels.toNat) ∧
        sell.Filled .sell (Ladder.baseTotal levels.toNat)
          (Ladder.quoteTotal base.value levels.toNat) ∧
        buyOver.TurnedDown .buy (Ladder.quoteTotal base.value levels.toNat + 1) ∧
        sellOver.TurnedDown .sell (Ladder.baseTotal levels.toNat + 1)) ∧
    ∀ {σ : Type} (network : Network σ) (state : σ) (env : Config.Variables)
      (arguments : List String) (options : CommandLine.Options) (config : Config),
      CommandLine.SelfChecks env arguments options config →
      options.ladderDepth = levels → options.basePrice = base → config.symbol = symbol →
      config.depthLimit = client.depthLimit → config.credential = .ok client.credential →
      (CommandLine.run chance network state env arguments).exit = 0 := by
  obtain ⟨presented, haccepted⟩ := Credential.accepted hkey hcarried.plain
  have hquiet : Quiet symbol.toList := by
    refine ⟨fun hnil => hsymbol.1 (String.toList_eq_nil_iff.mp hnil), fun c hc => ?_⟩
    rcases hsymbol.2 c hc with h | rfl
    · simp [isQuiet, h]
    · decide
  have hreaches : client.Reaches presented symbol :=
    Client.reaches_of_quiet ⟨⟨_, hbase⟩, haccepted⟩ hquiet ⟨by omega, hlevels.2.2⟩ hlength
  refine (and_iff_left_of_imp fun hcheck => ?_).mpr fun hosted tally idFor hfresh => ?_
  · intro σ network state env arguments options config h hdepth hprice hname hlimit hcredential
    obtain ⟨seeded, buy, sell, buyOver, sellOver, session, hseed, hrun, hbuy, hsell, hbuyOver,
      hsellOver⟩ := hcheck .empty .empty chance.auctionId fun _ _ => rfl
    subst hdepth hprice hname
    have haudit := @CommandLine.auditVenue_run _ chance
      (client.venue (Hosted.network chance.stamps)) options config ⟨.empty, .empty⟩ _ _ _ h.seeds
      hseed hrun
    refine CommandLine.exit_run h hbase hlimit hcredential haudit ?_
    obtain ⟨_, _, _, rfl, -⟩ := hbuy
    obtain ⟨_, _, _, rfl, -⟩ := hsell
    obtain ⟨_, _, rfl, -⟩ := hbuyOver
    obtain ⟨_, _, rfl, -⟩ := hsellOver
    rfl
  · -- Seeding leaves the auctions alone, so ids that were free are free after it.
    obtain ⟨seeded, hseed, hseeded, hauctions⟩ :=
      Client.seed_run chance.stamps hreaches.admitted hosted hfits
        (hreaches.utf8ByteSize_le.trans (Nat.le_mul_of_pos_left _ two_pos))
    have hfree : ∀ scenario s,
        (seeded.exchange.book s).auction? (idFor scenario).text = none := by
      intro scenario s
      rw [Book.auction?, hauctions]
      exact hfresh scenario s
    obtain ⟨buy, sell, buyOver, sellOver, session, hrun⟩ := @run_seeded client presented symbol base
      levels.toNat idFor chance.stamps hreaches hfits hlevels.1 hlevels.2.1 ⟨seeded, tally⟩ hseeded
      hfree
    exact ⟨seeded, buy, sell, buyOver, sellOver, session, hseed, hrun⟩

/-- The client of a run that is told nothing but to host its exchange. -/
def usualClient : Client := ⟨Hosted.base .first, ⟨.apiKey, "Bearer abcdef12345"⟩, 20⟩

theorem fits_usual : Ladder.Fits (.ofUInt32 2000) 3 := by
  have hvalue : (ofUInt32 2000).value = 2000 := value_ofUInt32 2000
  refine ⟨by rw [hvalue]; norm_num, ?_⟩
  rw [hvalue]
  norm_num [Ladder.quoteTotal, Ladder.baseTotal, List.range_succ, ofUInt32]

theorem selfCheck_passes_usual :
    (∃ seeded buy sell buyOver sellOver session,
      ((Ladder.ofDepth "ETH-USD" 3).seed (usualClient.venue (Hosted.network .counted))
        (.ofUInt32 2000)).run.run .empty = (.ok (.ok ()), seeded) ∧
      (Audit.run (usualClient.venue (Hosted.network .counted)) "ETH-USD"
        CommandLine.Chance.counted.auctionId).run.run ⟨seeded, .empty⟩ =
          (.ok ⟨[buy, sell, buyOver, sellOver]⟩, session) ∧
      buy.Filled .buy 120140 60 ∧ sell.Filled .sell 60 120140 ∧
      buyOver.TurnedDown .buy 120141 ∧ sellOver.TurnedDown .sell 61) ∧
    (CommandLine.run .counted Network.silent () [] ["--mock"]).exit = 0 := by
  have hvalue : (ofUInt32 2000).value = 2000 := value_ofUInt32 2000
  have hthree : (3 : UInt32).toNat = 3 := rfl
  have hquote : Ladder.quoteTotal (ofUInt32 2000).value (3 : UInt32).toNat = 120140 := by
    rw [hvalue, hthree]
    norm_num [Ladder.quoteTotal, List.range_succ]
  have hbase : Ladder.baseTotal (3 : UInt32).toNat = 60 := by
    rw [hthree]
    norm_num [Ladder.baseTotal, List.range_succ]
  have hquote' : (120140 : ℚ) + 1 = 120141 := by norm_num
  have hbase' : (60 : ℚ) + 1 = 61 := by norm_num
  have hsymbol : ∀ c ∈ "ETH-USD".toList, c.isAlphanum = true ∨ c = '-' := by
    intro c hc
    have hall : "ETH-USD".toList.all (fun c => c.isAlphanum || c == '-') = true := rfl
    simpa using List.all_eq_true.mp hall c hc
  obtain ⟨hcheck, hrun⟩ := @selfCheck_passes usualClient .counted .apiKey "abcdef12345" "ETH-USD" 3
    (.ofUInt32 2000) rfl (by decide +kernel) ⟨by decide +kernel, by decide +kernel⟩
    ⟨by decide, hsymbol⟩ (by decide +kernel) (by decide) fits_usual
  have hall := hcheck .empty .empty CommandLine.Chance.counted.auctionId fun _ _ => rfl
  rw [hquote, hbase, hquote', hbase'] at hall
  have htold : CommandLine.SelfChecks [] ["--mock"] ⟨none, .ofUInt32 2000, 3, none, false, true⟩
      ⟨"http://localhost:8080", .apiKey, "abcdef12345", none, "ETH-USD", 20, 9000⟩ :=
    ⟨by decide +kernel, ⟨_, rfl, by decide +kernel⟩, rfl, rfl, by simp⟩
  exact ⟨hall, hrun Network.silent () [] ["--mock"] _ _ htold rfl rfl rfl rfl (by decide +kernel)⟩

/-- A symbol of so many letters. -/
def longSymbol (n : Nat) : String := String.ofList (List.replicate n 'A')

theorem utf8ByteSize_longSymbol (n : Nat) : (longSymbol n).utf8ByteSize = n := by
  have hsize : Char.utf8Size 'A' = 1 := by decide
  rw [longSymbol, String.utf8ByteSize_ofList]
  induction n with
  | zero => rfl
  | succ n ih => rw [List.replicate_succ, String.utf8Len_cons, ih, hsize]

theorem quiet_longSymbol {n : Nat} (hn : 0 < n) : Quiet (longSymbol n).toList := by
  rw [longSymbol, String.toList_ofList]
  refine ⟨fun hnil => hn.ne' (by simpa using hnil), fun c hc => ?_⟩
  rw [List.eq_of_mem_replicate hc]
  decide

/-- A symbol that makes the address of the depth too long is seeded, but then its depth cannot be
asked for, and the audit ends with the first scenario. -/
theorem run_long (stamps : Stamps) {n : Nat} (hn : Url.maxLength < n)
    (hseedable : n ≤ 2 * Url.maxLength) {client : Client} {presented : Presented}
    (h : client.Admitted presented) {base : Decimal} {levels : UInt32}
    (hfits : Ladder.Fits base levels.toNat) (hosted : Hosted) (tally : Tally)
    (idFor : Scenario → Uuid) :
    ∃ seeded report session,
      ((Ladder.ofDepth (longSymbol n) levels).seed (client.venue (Hosted.network stamps))
        base).run.run hosted = (.ok (.ok ()), seeded) ∧
      (Audit.run (client.venue (Hosted.network stamps)) (longSymbol n) idFor).run.run
        ⟨seeded, tally⟩ = (.ok ⟨[report]⟩, session) ∧
      report.passed = false := by
  have hsize : (longSymbol n).utf8ByteSize ≤ 2 * Url.maxLength := by
    rwa [utf8ByteSize_longSymbol]
  obtain ⟨seeded, hseed, -⟩ := Client.seed_run stamps h hosted hfits hsize
  have hlength : Url.maxLength < (client.base ++ client.depthPath (longSymbol n)).utf8ByteSize := by
    have hpath := Json.length_le_utf8ByteSize (client.depthPath (longSymbol n)).toList
    have hsymbol : n ≤ (client.depthPath (longSymbol n)).toList.length := by
      rw [Client.toList_depthPath]
      simp [pathAndQuery, Resource.segments, longSymbol]
      omega
    rw [String.ofList_toList] at hpath
    rw [String.utf8ByteSize_append]
    omega
  obtain ⟨e, hdepth⟩ := @Client.depth_unsendable client presented seeded stamps h _
    (quiet_longSymbol (Nat.zero_lt_of_lt hn)) hlength
  have hrun := @Scenario.run_of_depth_error _ (client.venue (Hosted.network stamps)) (longSymbol n)
    ⟨.buy, false⟩ (idFor ⟨.buy, false⟩) seeded e (by rw [hdepth])
  have hcounted := Scenario.runCounted_of_run ⟨seeded, tally⟩ hrun
  obtain ⟨session, hruns⟩ : ∃ session, (runAll (client.venue (Hosted.network stamps))
      (longSymbol n) idFor Scenario.all).run.run ⟨seeded, tally⟩ =
        (.ok [(Report.start ⟨.buy, false⟩).fail (.depthUnavailable e)], session) := by
    rw [Scenario.all, runAll, Guarded.run_bind_ok hcounted]
    exact ⟨_, rfl⟩
  refine ⟨seeded, (Report.start ⟨.buy, false⟩).fail (.depthUnavailable e), session, hseed, ?_, rfl⟩
  rw [Audit.run, Guarded.run_bind_ok hruns]
  rfl

/-- A client with a key that is no plain text. -/
def foreignClient : Client := ⟨Hosted.base .first, ⟨.apiKey, "Bearer é"⟩, 20⟩

/-- A long symbol is seeded and then cannot be asked for, and with a foreign key nothing is even
seeded. -/
theorem selfCheck_fails_long_foreign :
    (∀ c ∈ (longSymbol 65536).toList, c.isAlphanum = true) ∧ Ladder.Fits (.ofUInt32 2000) 3 ∧
    (∃ seeded report session,
      ((Ladder.ofDepth (longSymbol 65536) 3).seed (usualClient.venue (Hosted.network .counted))
        (.ofUInt32 2000)).run.run .empty = (.ok (.ok ()), seeded) ∧
      (Audit.run (usualClient.venue (Hosted.network .counted)) (longSymbol 65536)
        CommandLine.Chance.counted.auctionId).run.run ⟨seeded, .empty⟩ =
          (.ok ⟨[report]⟩, session) ∧
      report.passed = false) ∧
    Credential.ofKey .apiKey "é" = .ok foreignClient.credential ∧
    ∀ seeded, ((Ladder.ofDepth "ETH-USD" 3).seed (foreignClient.venue (Hosted.network .counted))
      (.ofUInt32 2000)).run.run .empty ≠ (.ok (.ok ()), seeded) := by
  have hadmitted : usualClient.Admitted ⟨.apiKey, "abcdef12345"⟩ := ⟨⟨.first, rfl⟩, by decide⟩
  have hlong : Url.maxLength < 65536 := by decide
  refine ⟨?_, fits_usual, run_long .counted hlong (by decide) hadmitted fits_usual .empty .empty _,
    by decide +kernel, ?_⟩
  · intro c hc
    rw [longSymbol, String.toList_ofList] at hc
    rw [List.eq_of_mem_replicate hc]
    decide
  · have hrefused : (((Ladder.ofDepth "ETH-USD" 3).seed
        (foreignClient.venue (Hosted.network .counted))
        (.ofUInt32 2000)).run.run .empty).1.toOption.map Except.toBool = some false := by
      decide +kernel
    intro seeded hseeded
    rw [hseeded] at hrefused
    cases hrefused

end Audit

end SweepAudit
