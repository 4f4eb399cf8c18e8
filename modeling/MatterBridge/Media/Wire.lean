import MatterBridge.Core.Percent
import MatterBridge.Media.StreamManager

/-!
# The go2rtc API on the wire

The client prints each call as an HTTP request. Stream names and camera URLs come from
the cameras, so what matters is that no name or URL can be read as anything else: a server
that splits and decodes the query reads the call that was made.
-/
namespace MatterBridge.Media

open MatterBridge.Core MatterBridge.Onvif

/-- `urlencoding::encode`: a text as one query component. -/
class UrlEncoding where
  encode : String → String
  spells : ∀ s, Percent.Spells (encode s) s

abbrev percentEncoding : UrlEncoding := ⟨Percent.encode, Percent.spells_encode⟩

inductive Method where
  | get
  | put
  | delete
  | post
  deriving DecidableEq, Repr

structure HttpRequest where
  method : Method
  url : String
  contentType : Option String
  body : String
  deriving DecidableEq, Repr

/-- The operations of the API. -/
inductive Call where
  | streams (request : Request)
  | webrtc (streamName sdpOffer : String)
  | ready
  deriving DecidableEq, Repr

/-! ## The client -/

structure Go2RtcApi where
  baseUrl : String

namespace Go2RtcApi

def new (host : String) (port : UInt16) : Go2RtcApi where
  baseUrl := "http://" ++ host ++ ":" ++ toString port.toNat

def getRequest (url : String) : HttpRequest := ⟨.get, url, none, ""⟩

variable [UrlEncoding]

def addStream (api : Go2RtcApi) (name rtspUrl : String) : HttpRequest where
  method := .put
  url := api.baseUrl ++ "/api/streams?name=" ++ UrlEncoding.encode name ++ "&src=" ++
    UrlEncoding.encode rtspUrl
  contentType := none
  body := ""

def removeStream (api : Go2RtcApi) (name : String) : HttpRequest where
  method := .delete
  url := api.baseUrl ++ "/api/streams?name=" ++ UrlEncoding.encode name
  contentType := none
  body := ""

def exchangeSdp (api : Go2RtcApi) (streamName sdpOffer : String) : HttpRequest where
  method := .post
  url := api.baseUrl ++ "/api/webrtc?src=" ++ UrlEncoding.encode streamName
  contentType := some "application/sdp"
  body := sdpOffer

def streamState (api : Go2RtcApi) : HttpRequest := getRequest (api.baseUrl ++ "/api/streams")

def isReady (api : Go2RtcApi) : HttpRequest := getRequest (api.baseUrl ++ "/api")

def send (api : Go2RtcApi) : Call → HttpRequest
  | .streams .getStreams => api.streamState
  | .streams (.putStream name url) => api.addStream name url
  | .streams (.deleteStream name) => api.removeStream name
  | .webrtc streamName sdpOffer => api.exchangeSdp streamName sdpOffer
  | .ready => api.isReady

end Go2RtcApi

example : letI := percentEncoding
    ((Go2RtcApi.new "localhost" 1984).addStream "Tür_1" "rtsp://a:b@10.0.0.5/s?x=1&y").url =
      "http://localhost:1984/api/streams?name=T%C3%BCr_1&src=rtsp%3A%2F%2Fa%3Ab%4010.0.0.5%2Fs%3Fx%3D1%26y" :=
  by decide

/-! ## The server -/

/-- Path and query of a request, decoded. -/
structure Target where
  path : String
  query : List (String × String)
  deriving DecidableEq, Repr

/-- The characters that end the authority of a URL. -/
def endsAuthority (c : Char) : Bool := c == '/' || c == '?' || c == '#'

/-- The origin form of a URL: what follows its authority, without a fragment. -/
def originForm (url : String) : String :=
  String.ofList (((url.toList.drop "http://".length).dropWhile fun c => !endsAuthority c).takeWhile
    fun c => c ≠ '#')

def readTarget (url : String) : Option Target :=
  if "http://".toList <+: url.toList then
    match Str.splitOnce '?' (originForm url) with
    | none => some ⟨originForm url, []⟩
    | some (path, query) => (Percent.readQuery query).map (⟨path, ·⟩)
  else none

/-- The call the request makes, by the paths and parameters the API documents. -/
def HttpRequest.read (request : HttpRequest) : Option Call := do
  let target ← readTarget request.url
  match request.method, target.path with
  | .get, "/api" => return .ready
  | .get, "/api/streams" => return .streams .getStreams
  | .put, "/api/streams" =>
    return .streams (.putStream (← target.query.lookup "name") (← target.query.lookup "src"))
  | .delete, "/api/streams" => return .streams (.deleteStream (← target.query.lookup "name"))
  | .post, "/api/webrtc" => return .webrtc (← target.query.lookup "src") request.body
  | _, _ => none

/-- The host stays within the authority. -/
def PlainHost (host : String) : Prop := ∀ c ∈ host.toList, endsAuthority c = false

instance (host : String) : Decidable (PlainHost host) :=
  List.decidableBAll (fun c => endsAuthority c = false) host.toList

section

variable {host : String}

theorem endsAuthority_of_mem_toString {n : Nat} {c : Char} (h : c ∈ (toString n).toList) :
    endsAuthority c = false := by
  have hdigits : (toString n).toList = Nat.toDigits 10 n := Nat.toList_repr
  rw [hdigits] at h
  have hd := Nat.isDigit_of_mem_toDigits (by decide) (by decide) h
  simp only [endsAuthority, Bool.or_eq_false_iff, beq_eq_false_iff_ne]
  refine ⟨⟨?_, ?_⟩, ?_⟩ <;> rintro rfl <;> exact absurd hd (by decide)

theorem toList_baseUrl (host : String) (port : UInt16) (rest : String) :
    ((Go2RtcApi.new host port).baseUrl ++ rest).toList = "http://".toList ++
      ((host.toList ++ ':' :: (toString port.toNat).toList) ++ rest.toList) := by
  simp [Go2RtcApi.new]

theorem authority_plain (h : PlainHost host) (port : UInt16) :
    ∀ c ∈ host.toList ++ ':' :: (toString port.toNat).toList, (!endsAuthority c) = true := by
  intro c hc
  rw [Bool.not_eq_true']
  rcases List.mem_append.mp hc with hc | hc
  · exact h c hc
  · rcases List.mem_cons.mp hc with rfl | hc
    · decide
    · exact endsAuthority_of_mem_toString hc

/-- The server gets what follows the base URL. -/
theorem originForm_baseUrl (h : PlainHost host) (port : UInt16) {rest : String}
    (hslash : rest.toList.head? = some '/') (hplain : '#' ∉ rest.toList) :
    originForm ((Go2RtcApi.new host port).baseUrl ++ rest) = rest := by
  have hdrop : ((host.toList ++ ':' :: (toString port.toNat).toList) ++ rest.toList).dropWhile
      (fun c => !endsAuthority c) = rest.toList := by
    rw [List.dropWhile_append_of_pos (authority_plain h port)]
    obtain ⟨cs, hcs⟩ := List.head?_eq_some_iff.mp hslash
    rw [hcs]
    rfl
  have htake : rest.toList.takeWhile (fun c => decide (c ≠ '#')) = rest.toList :=
    List.takeWhile_eq_self_iff.mpr fun c hc => decide_eq_true fun he => hplain (he ▸ hc)
  rw [originForm, toList_baseUrl, String.length, List.drop_left, hdrop, htake,
    String.ofList_toList]

theorem readTarget_baseUrl (h : PlainHost host) (port : UInt16) {rest : String}
    (hslash : rest.toList.head? = some '/') (hplain : '#' ∉ rest.toList) :
    readTarget ((Go2RtcApi.new host port).baseUrl ++ rest) =
      match Str.splitOnce '?' rest with
      | none => some ⟨rest, []⟩
      | some (path, query) => (Percent.readQuery query).map (⟨path, ·⟩) := by
  have hscheme : "http://".toList <+: ((Go2RtcApi.new host port).baseUrl ++ rest).toList := by
    rw [toList_baseUrl]
    exact List.prefix_append _ _
  rw [readTarget, if_pos hscheme, originForm_baseUrl h port hslash hplain]

theorem readTarget_path (h : PlainHost host) (port : UInt16) {path : String}
    (hslash : path.toList.head? = some '/') (hplain : '#' ∉ path.toList)
    (hquery : '?' ∉ path.toList) :
    readTarget ((Go2RtcApi.new host port).baseUrl ++ path) = some ⟨path, []⟩ := by
  rw [readTarget_baseUrl h port hslash hplain, Str.splitOnce_of_notMem hquery]

theorem readTarget_query (h : PlainHost host) (port : UInt16) {path : String}
    (hslash : path.toList.head? = some '/') (hplain : '#' ∉ path.toList)
    (hquery : '?' ∉ path.toList) {raws query : List (String × String)}
    (hraws : List.Forall₂ Percent.SpellsPair raws query) :
    readTarget ((Go2RtcApi.new host port).baseUrl ++ (path ++ "?" ++ Percent.joinQuery raws)) =
      some ⟨path, query⟩ := by
  have hlist : (path ++ "?" ++ Percent.joinQuery raws).toList =
      path.toList ++ '?' :: (Percent.joinQuery raws).toList := by
    simp
  have hhash : '#' ∉ (path ++ "?" ++ Percent.joinQuery raws).toList := by
    rw [hlist]
    intro hm
    rcases List.mem_append.mp hm with hm | hm
    · exact hplain hm
    · rcases List.mem_cons.mp hm with he | hm
      · exact absurd he (by decide)
      · exact Percent.hash_notMem_joinQuery hraws hm
  have hhead : (path ++ "?" ++ Percent.joinQuery raws).toList.head? = some '/' := by
    obtain ⟨cs, hcs⟩ := List.head?_eq_some_iff.mp hslash
    rw [hlist, hcs]
    rfl
  rw [readTarget_baseUrl h port hhead hhash, Str.splitOnce_append hquery hlist]
  simp only [Percent.readQuery_joinQuery hraws, Option.map_some]

/-! ## Round trip -/

theorem spells_name : Percent.Spells "name" "name" :=
  Percent.spells_plain (by decide) (by decide)

theorem spells_src : Percent.Spells "src" "src" :=
  Percent.spells_plain (by decide) (by decide)

variable [UrlEncoding]

theorem url_addStream (api : Go2RtcApi) (name rtspUrl : String) :
    (api.addStream name rtspUrl).url = api.baseUrl ++ ("/api/streams" ++ "?" ++ Percent.joinQuery
      [("name", UrlEncoding.encode name), ("src", UrlEncoding.encode rtspUrl)]) := by
  refine String.toList_inj.mp ?_
  simp [Go2RtcApi.addStream, Percent.joinQuery, Percent.joinPair, String.intercalate_cons_cons]

theorem url_removeStream (api : Go2RtcApi) (name : String) :
    (api.removeStream name).url = api.baseUrl ++ ("/api/streams" ++ "?" ++
      Percent.joinQuery [("name", UrlEncoding.encode name)]) := by
  refine String.toList_inj.mp ?_
  simp [Go2RtcApi.removeStream, Percent.joinQuery, Percent.joinPair]

theorem url_exchangeSdp (api : Go2RtcApi) (streamName sdpOffer : String) :
    (api.exchangeSdp streamName sdpOffer).url = api.baseUrl ++ ("/api/webrtc" ++ "?" ++
      Percent.joinQuery [("src", UrlEncoding.encode streamName)]) := by
  refine String.toList_inj.mp ?_
  simp [Go2RtcApi.exchangeSdp, Percent.joinQuery, Percent.joinPair]

theorem spellsPair {key : String} (h : Percent.Spells key key) (value : String) :
    Percent.SpellsPair (key, UrlEncoding.encode value) (key, value) :=
  ⟨h, UrlEncoding.spells value⟩

/-- **A call is read as it was made**, for all stream names, camera URLs and offers. -/
theorem read_send (h : PlainHost host) (port : UInt16) (call : Call) :
    ((Go2RtcApi.new host port).send call).read = some call := by
  cases call with
  | streams request =>
    cases request with
    | getStreams =>
      have ht : readTarget ((Go2RtcApi.new host port).send (.streams .getStreams)).url =
          some ⟨"/api/streams", []⟩ :=
        readTarget_path h port (by decide) (by decide) (by decide)
      rw [HttpRequest.read, ht]
      rfl
    | putStream name url =>
      have ht : readTarget ((Go2RtcApi.new host port).send (.streams (.putStream name url))).url =
          some ⟨"/api/streams", [("name", name), ("src", url)]⟩ := by
        rw [Go2RtcApi.send, url_addStream]
        exact readTarget_query h port (by decide) (by decide) (by decide)
          (.cons (spellsPair spells_name name) (.cons (spellsPair spells_src url) .nil))
      rw [HttpRequest.read, ht]
      rfl
    | deleteStream name =>
      have ht : readTarget ((Go2RtcApi.new host port).send (.streams (.deleteStream name))).url =
          some ⟨"/api/streams", [("name", name)]⟩ := by
        rw [Go2RtcApi.send, url_removeStream]
        exact readTarget_query h port (by decide) (by decide) (by decide)
          (.cons (spellsPair spells_name name) .nil)
      rw [HttpRequest.read, ht]
      rfl
  | webrtc streamName sdpOffer =>
    have ht : readTarget ((Go2RtcApi.new host port).send (.webrtc streamName sdpOffer)).url =
        some ⟨"/api/webrtc", [("src", streamName)]⟩ := by
      rw [Go2RtcApi.send, url_exchangeSdp]
      exact readTarget_query h port (by decide) (by decide) (by decide)
        (.cons (spellsPair spells_src streamName) .nil)
    rw [HttpRequest.read, ht]
    rfl
  | ready =>
    have ht : readTarget ((Go2RtcApi.new host port).send .ready).url = some ⟨"/api", []⟩ :=
      readTarget_path h port (by decide) (by decide) (by decide)
    rw [HttpRequest.read, ht]
    rfl

end

/-! ## The manager over HTTP -/

/-- One call of the stream API as an HTTP request. -/
def exchangeHttp (report : String → String) (table : StreamTable) (request : HttpRequest)
    (d : Delivery) : StreamTable × Option Response :=
  match request.read with
  | some (.streams request) => exchange report table request d
  | _ => (table, none)

namespace MediaSync

section

variable [UnicodeTables] [UrlCrate] [UrlEncoding]

/-- The manager with its calls written as requests and read by the server. -/
inductive HttpStep (api : Go2RtcApi) (cfg : MediaConfig) (report : String → String)
    (tx : Broadcast RegistryEvent) : MediaSync → Label → MediaSync → Prop
  | call {s : MediaSync} {request : Request} {d : Delivery} : s.phase.request = some request →
      HttpStep api cfg report tx s (.call d) { s with
        phase := s.phase.respond
          (exchangeHttp report s.table (api.send (.streams request)) d).2
        table := (exchangeHttp report s.table (api.send (.streams request)) d).1 }
  | other {s t : MediaSync} {l : Label} : (∀ d, l ≠ .call d) → Step cfg report tx s l t →
      HttpStep api cfg report tx s l t

theorem httpStep_iff {host : String} (h : PlainHost host) (port : UInt16) {cfg : MediaConfig}
    {report : String → String} {tx : Broadcast RegistryEvent} {s t : MediaSync} {l : Label} :
    HttpStep (.new host port) cfg report tx s l t ↔ Step cfg report tx s l t := by
  have hread : ∀ table request d,
      exchangeHttp report table ((Go2RtcApi.new host port).send (.streams request)) d =
        exchange report table request d := by
    intro table request d
    rw [exchangeHttp, read_send h port]
  constructor
  · intro hs
    cases hs with
    | call hq =>
      simp only [hread]
      exact .call hq
    | other _ hs => exact hs
  · intro hs
    cases hs with
    | @call request d hq =>
      have hcall : HttpStep (.new host port) cfg report tx s (.call d) _ := .call hq
      simpa only [hread] using hcall
    | received hp hr => exact .other (by simp) (.received hp hr)
    | lagged hp hr => exact .other (by simp) (.lagged hp hr)
    | closed hp hr => exact .other (by simp) (.closed hp hr)
    | restart => exact .other (by simp) .restart

/-- **Nothing is lost in the encoding.** The server reads every request as exactly the call
it was made from. So the manager whose calls are written as requests and read back has exactly
the runs of the manager that hands the server its calls, whatever the cameras put into their
ids and stream URLs. -/
theorem http_runs {host : String} (h : PlainHost host) (port : UInt16) (cfg : MediaConfig)
    (report : String → String) (tx : Broadcast RegistryEvent) :
    (∀ call, ((Go2RtcApi.new host port).send call).read = some call) ∧
    ∀ s labels t, Run (HttpStep (.new host port) cfg report tx) s labels t ↔
      Run (Step cfg report tx) s labels t :=
  ⟨read_send h port, fun _ _ _ => ⟨Run.mono fun _ _ _ => (httpStep_iff h port).mp,
    Run.mono fun _ _ _ => (httpStep_iff h port).mpr⟩⟩

omit [UnicodeTables] [UrlCrate] [UrlEncoding] in
/-- The default host; a delete and an offer for a stream name that spells a parameter. -/
theorem http_runs_localhost :
    letI := asciiTables
    letI := rtspUrls
    letI := percentEncoding
    ((Go2RtcApi.new "localhost" 1984).send (.webrtc "SN&src=x" "v=0")).read =
        some (.webrtc "SN&src=x" "v=0") ∧
      ∃ t, Run (HttpStep (.new "localhost" 1984) ⟨"admin", "pass"⟩ id (.new 64))
        ⟨0, .removing "SN&src=x", ∅⟩ [.call .delivered] t ∧ t.phase = .receiving := by
  let _ := asciiTables
  let _ := rtspUrls
  let _ := percentEncoding
  have hlocal : PlainHost "localhost" := by decide
  have hdirect : Run (Step ⟨"admin", "pass"⟩ id (.new 64)) ⟨0, .removing "SN&src=x", ∅⟩
      [.call .delivered] _ := Run.one (.call rfl)
  obtain ⟨hread, hruns⟩ := http_runs hlocal 1984 ⟨"admin", "pass"⟩ id (.new 64)
  exact ⟨hread _, _, (hruns _ _ _).mpr hdirect, rfl⟩

end

end MediaSync

end MatterBridge.Media
