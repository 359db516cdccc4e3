import SweepAudit.Config.Basic
import SweepAudit.Proofs.Client.Bodies
import SweepAudit.Proofs.Client.Calls
import SweepAudit.Proofs.Http.Parameter

/-!
Whose depth is read. A symbol goes into the address of a request for the depth as it is, and into
the bodies of orders and auctions, too. Only what stands in a body always arrives as it was sent;
what stands in an address does if it arrives there as a parameter and the address is not too
long, and then orders and auctions act on the very book whose depth is read.
-/

namespace SweepAudit

open Http

theorem Config.limit_of_check {config : Config} (h : config.check = .ok ()) :
    1 ≤ config.depthLimit.toNat ∧ config.depthLimit.toNat ≤ Exchange.maxLimit := by
  rw [check] at h
  split at h
  · cases h
  · split at h
    · cases h
    · split at h
      · cases h
      · rename_i hlimit
        rw [not_or, UInt32.lt_iff_toNat_lt, Nat.not_lt, ← UInt32.toNat_inj] at hlimit
        exact ⟨Nat.one_le_iff_ne_zero.mpr hlimit.1, hlimit.2⟩

namespace Client

variable {client : Client} {presented : Presented} {symbol : String} {port : Port}
  {stamps : Stamps}

/-- A symbol as it is written in an address. -/
def written (symbol : String) : String :=
  String.ofList (Text.percentEncode Url.pathKeeps symbol.toList)

/-- What comes before the symbol. -/
def orderbookPath : List (List Char) := ["api".toList, "v1".toList, "orderbook".toList]

theorem quiet_orderbookPath : ∀ segment ∈ orderbookPath, Quiet segment := by decide +kernel

theorem toList_depthAddress (hbase : client.base = Hosted.base port) (symbol : String) :
    (client.base ++ client.depthPath symbol).toList = (Hosted.base port).toList ++
      pathAndQuery (orderbookPath ++ [symbol.toList]) (some client.limitQuery) := by
  rw [String.toList_append, toList_depthPath, hbase]
  rfl

theorem limitQuery_ne_nil (client : Client) : client.limitQuery ≠ [] := by
  simp [limitQuery]

theorem text_written (hbase : client.base = Hosted.base port) (symbol : String) :
    (hostedUrl port (orderbookPath ++ [Text.percentEncode Url.pathKeeps symbol.toList])
      (some client.limitQuery)).text = client.base ++ client.depthPath (written symbol) := by
  have hwritten : (written symbol).toList = Text.percentEncode Url.pathKeeps symbol.toList :=
    String.toList_ofList
  rw [text_hostedUrl, ← hwritten, ← toList_depthAddress hbase, String.ofList_toList]

theorem parse_written (hbase : client.base = Hosted.base port)
    (harrives : Arrives symbol.toList) :
    Url.parse (client.base ++ client.depthPath symbol) =
      .ok (hostedUrl port (orderbookPath ++ [Text.percentEncode Url.pathKeeps symbol.toList])
        (some client.limitQuery)) :=
  parse_arriving quiet_orderbookPath client.limitQuery_ne_nil
    (client.quiet_limitQuery _ rfl) (toList_depthAddress hbase symbol) harrives

/-- A request for the depth of a symbol gets there only if the symbol arrives. -/
theorem Reaches.arrives (h : client.Reaches presented symbol) :
    Arrives symbol.toList ∧
      (client.base ++ client.depthPath (written symbol)).utf8ByteSize ≤ Url.maxLength := by
  obtain ⟨segment, hsegment, url, asked, hparse, hasked, hresource, -⟩ := h.leads
  obtain ⟨port, hbase⟩ := h.admitted.isLocal
  obtain ⟨hlast, hne⟩ := Resource.getLast?_of_depth hresource
  have harrives : Arrives symbol.toList :=
    arrives_of_found quiet_orderbookPath client.limitQuery_ne_nil (client.quiet_limitQuery _ rfl)
      (toList_depthAddress hbase symbol) hparse hasked hlast hne hsegment
  have hurl := Except.ok.inj (hparse.symm.trans (parse_written hbase harrives))
  have hsize : url.text.utf8ByteSize ≤ Url.maxLength := by
    have hkept := hasked
    rw [hurl, asked_hostedUrl] at hkept
    split at hkept
    · rename_i hshort
      rwa [hurl]
    · cases hkept
  rw [hurl, text_written hbase] at hsize
  exact ⟨harrives, hsize⟩

theorem isWhole_written (h : Arrives symbol.toList) :
    (Resource.depth (Text.percentEncode Url.pathKeeps symbol.toList)).IsWhole := by
  have hslash : ∀ c ∈ symbol.toList, c ≠ '/' := by
    rintro c hc rfl
    exact absurd (h.unmarked '/' hc) (by decide)
  intro segment hs
  rcases List.mem_append.mp (show segment ∈ orderbookPath ++ [_] from hs) with hs | hs
  · have hquiet := quiet_orderbookPath segment hs
    exact ⟨hquiet.1, hquiet.unbroken⟩
  · obtain rfl := List.mem_singleton.mp hs
    exact ⟨fun hnil => h.ne_nil (Text.percentEncode_eq_nil.mp hnil), unbroken_percentEncode hslash⟩

theorem reaches_of_arrives (h : client.Admitted presented)
    (hlimit : 1 ≤ client.depthLimit.toNat ∧ client.depthLimit.toNat ≤ Exchange.maxLimit)
    (harrives : Arrives symbol.toList)
    (hlength : (client.base ++ client.depthPath (written symbol)).utf8ByteSize ≤ Url.maxLength) :
    client.Reaches presented symbol := by
  obtain ⟨port, hbase⟩ := h.isLocal
  refine ⟨h, hlimit, Text.percentEncode Url.pathKeeps symbol.toList, ?_, ?_⟩
  · rw [Text.percentDecode?_percentEncode (by decide) fun _ => pathKeeps_of_isHexDigit]
    exact harrives.plain
  · exact @leads_of_parse client (.depth _) (isWhole_written harrives) port (some _)
      (ne_fragment_of_isQuiet client.quiet_limitQuery) _ (parse_written hbase harrives)
      (text_written hbase symbol ▸ hlength)

/-- The depth of a symbol is that of the book on which its orders and auctions act. -/
structure SharesBook (client : Client) (stamps : Stamps) (symbol : String) : Prop where
  depth : ∀ (hosted : Hosted) (snapshot : Snapshot),
    (hosted.exchange.book symbol).depth client.depthLimit.toNat = .ok snapshot →
    (((client.venue (Hosted.network stamps)).depth symbol).run hosted).1 = .ok snapshot
  order : ∀ (hosted : Hosted) (order : Order) (s : String), order.symbol = symbol → s ≠ symbol →
    (((client.venue (Hosted.network stamps)).placeOrder order).run hosted).2.exchange.book s =
      hosted.exchange.book s
  auction : ∀ (hosted : Hosted) (request : AuctionRequest) (s : String),
    request.symbol = symbol → s ≠ symbol →
    (((client.venue (Hosted.network stamps)).beginAuction request).run hosted).2.exchange.book s =
      hosted.exchange.book s

theorem Reaches.sharesBook (h : client.Reaches presented symbol) :
    client.SharesBook stamps symbol where
  depth hosted snapshot hdepth := by
    obtain ⟨hosted', hrun, -⟩ := depth_run stamps h hdepth
    rw [hrun]
  order hosted order s hsymbol hs := by
    subst hsymbol
    exact placeOrder_elsewhere h.admitted.isLocal hosted order hs
  auction hosted request s hsymbol hs := by
    subst hsymbol
    exact beginAuction_elsewhere h.admitted.isLocal hosted request hs

/-- For a symbol that a configuration may have, the depth is asked for under that symbol and with
that limit exactly if the symbol arrives, and then it is the depth of the book on which orders
and auctions act. -/
theorem reaches_iff_arrives {config : Config} (hcheck : config.check = .ok ())
    (h : client.Admitted presented) (hlimit : client.depthLimit = config.depthLimit) :
    (client.Reaches presented config.symbol ↔ Arrives config.symbol.toList ∧
      (client.base ++ client.depthPath (written config.symbol)).utf8ByteSize ≤ Url.maxLength) ∧
    (client.Reaches presented config.symbol → client.SharesBook stamps config.symbol) := by
  have hrange := Config.limit_of_check hcheck
  rw [← hlimit] at hrange
  refine ⟨⟨Reaches.arrives, ?_⟩, Reaches.sharesBook⟩
  rintro ⟨harrives, hlength⟩
  exact reaches_of_arrives h hrange harrives hlength

/-- A configuration that differs from the usual one by its symbol. -/
def tradingIn (symbol : String) : Config :=
  ⟨Hosted.base .first, .apiKey, "k", none, symbol, defaultDepthLimit, 9000⟩

theorem localClient_admitted : localClient.Admitted ⟨.apiKey, "k"⟩ :=
  ⟨⟨.first, rfl⟩, by decide +kernel⟩

theorem reaches_iff_arrives_euro :
    (tradingIn "ETH €").check = .ok () ∧ localClient.Reaches ⟨.apiKey, "k"⟩ "ETH €" ∧
      localClient.SharesBook .counted "ETH €" := by
  have hcheck : (tradingIn "ETH €").check = .ok () := by decide +kernel
  have hmarks : "ETH €".toList.all (fun c => !isMark c) = true := by decide +kernel
  have harrives : Arrives "ETH €".toList :=
    ⟨fun c hc => (Bool.not_eq_true' _).mp (List.all_eq_true.mp hmarks c hc),
      Text.percentDecode?_of_plain (by simp), by decide, by decide +kernel, by decide +kernel⟩
  obtain ⟨hiff, hshares⟩ := reaches_iff_arrives hcheck localClient_admitted rfl
  have hreaches := hiff.mpr ⟨harrives, by decide +kernel⟩
  exact ⟨hcheck, hreaches, hshares hreaches⟩

def escapedBid : Order := ⟨"%41", .buy, .one, .one, "a"⟩

/-- A symbol that looks like an escape is taken for one: its bid rests in its own book, and the
depth that is read is that of another. -/
theorem reaches_escaped :
    (tradingIn "%41").check = .ok () ∧
    ((((localClient.venue (Hosted.network .counted)).placeOrder escapedBid).run
      .empty).2.exchange.book "%41").depth 20 = .ok ⟨[], [⟨"1", "1"⟩]⟩ ∧
    (((localClient.venue (Hosted.network .counted)).depth "%41").run
      (((localClient.venue (Hosted.network .counted)).placeOrder escapedBid).run .empty).2).1 =
        .ok ⟨[], []⟩ := by
  decide +kernel

end Client

end SweepAudit
