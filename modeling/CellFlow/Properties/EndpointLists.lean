/-
# CellFlow.Properties.EndpointLists — endpoint lists without repetitions.

`parseRpcUrls` remembers the serialized endpoints but looks for the spelling as it was written.  A
repetition is therefore caught exactly when it is written the way the URL parser serializes it;
`endpoint_lists_stable_iff` derives from that when the list is free of duplicates and stable under
parsing it again, and with it what the client and the corroboration make of it.
-/
import CellFlow.Reconcile.RpcUrls

namespace CellFlow

open Js (collect RepeatsNormal)

/-! ## What is relied on -/

/-- Serialization is idempotent, brings no separator in, and the empty text is no URL. -/
structure UrlParser.Serializes (parse : UrlParser) : Prop where
  reparses : ∀ value url, parse value = some url → parse url.href = some url
  unseparated : ∀ value url, parse value = some url → (∀ c ∈ value.toList, isSeparator c = false) →
    ∀ c ∈ url.href.toList, isSeparator c = false
  empty : parse "" = none

/-! ## The spellings of a list -/

/-- The parts of one source. -/
def sourceParts (source : Option String) : List (List Char) :=
  match truthy source with
  | none => []
  | some source => splitSource source.toList

/-- The text of a part, unless it is empty. -/
def partSpelling (part : List Char) : Option String := truthy (some (trim (String.ofList part)))

/-- Every spelling of the sources, in order. -/
def spellings (sources : List (Option String)) : List String :=
  (sources.flatMap sourceParts).filterMap partSpelling

section Collected

variable {parse : UrlParser}

/-- The loops over sources and parts are one loop over all parts. -/
theorem foldl_parseSource (sources : List (Option String)) (acc : ParsedUrls) :
    sources.foldl (parseSource parse) acc =
      (sources.flatMap sourceParts).foldl (parsePart parse) acc := by
  induction sources generalizing acc with
  | nil => rfl
  | cons source rest ih =>
      rw [List.foldl_cons, List.flatMap_cons, List.foldl_append, ih]
      congr 1
      rcases hsource : truthy source with _ | text
      · simp only [parseSource, sourceParts, hsource, List.foldl_nil]
      · simp only [parseSource, sourceParts, hsource]

theorem parsePart_urls (acc : ParsedUrls) (part : List Char) (rest : List String) :
    (parsePart parse acc part).urls ++
        collect (acceptedUrl parse) (parsePart parse acc part).seen rest =
      acc.urls ++
        collect (acceptedUrl parse) acc.seen ((partSpelling part).toList ++ rest) := by
  by_cases hempty : trim (String.ofList part) = ""
  · have hpart : partSpelling part = none := by simp [partSpelling, truthy, hempty]
    rw [parsePart, if_pos (Or.inl hempty), hpart]
    rfl
  · have hpart : partSpelling part = some (trim (String.ofList part)) := by
      simp [partSpelling, truthy, hempty]
    rw [hpart, Option.toList_some, List.singleton_append]
    by_cases hseen : trim (String.ofList part) ∈ acc.seen
    · rw [parsePart, if_pos (Or.inr hseen), Js.collect_seen hseen]
    · rw [parsePart, if_neg (not_or.mpr ⟨hempty, hseen⟩)]
      rcases haccepted : acceptedUrl parse (trim (String.ofList part)) with _ | href
      · rw [Js.collect_none hseen haccepted]
      · rw [Js.collect_some hseen haccepted]
        exact List.append_assoc acc.urls [href] _

/-- The endpoints are collected over the spellings. -/
theorem parseRpcUrls_eq (sources : List (Option String)) :
    parseRpcUrls parse sources = collect (acceptedUrl parse) [] (spellings sources) := by
  have hparts : ∀ (parts : List (List Char)) (acc : ParsedUrls),
      (parts.foldl (parsePart parse) acc).urls =
        acc.urls ++ collect (acceptedUrl parse) acc.seen (parts.filterMap partSpelling) := by
    intro parts
    induction parts with
    | nil =>
        intro acc
        exact (List.append_nil acc.urls).symm
    | cons part rest ih =>
        intro acc
        rw [List.foldl_cons, ih, parsePart_urls]
        congr 2
        rcases hpart : partSpelling part with _ | text
        · rw [List.filterMap_cons_none hpart]
          rfl
        · rw [List.filterMap_cons_some hpart]
          rfl
  rw [parseRpcUrls, foldl_parseSource, hparts]
  rfl

theorem acceptedUrl_eq_some {value href : String} :
    acceptedUrl parse value = some href ↔
      ∃ url, parse value = some url ∧ (url.protocol = "https:" ∨ url.protocol = "http:") ∧
        url.username = "" ∧ url.password = "" ∧ url.href = href := by
  unfold acceptedUrl
  rcases hparse : parse value with _ | url
  · simp
  · by_cases hprotocol : url.protocol ≠ "https:" ∧ url.protocol ≠ "http:"
    · simp [hprotocol]
    · by_cases hcredentials : url.username ≠ "" ∨ url.password ≠ ""
      · have hnone : ¬ (url.username = "" ∧ url.password = "") := by
          rintro ⟨husername, hpassword⟩
          rcases hcredentials with h | h
          · exact h husername
          · exact h hpassword
        simp [hprotocol, hcredentials]
        tauto
      · simp [hprotocol, hcredentials]
        tauto

variable (hurl : parse.Serializes)

include hurl in
theorem acceptedUrl_idempotent : Js.Idempotent (acceptedUrl parse) := by
  intro value href h
  obtain ⟨url, hparse, hprotocol, husername, hpassword, rfl⟩ := acceptedUrl_eq_some.mp h
  exact acceptedUrl_eq_some.mpr
    ⟨url, hurl.reparses value url hparse, hprotocol, husername, hpassword, rfl⟩

include hurl in
theorem unseparated_of_accepted {value href : String} (h : acceptedUrl parse value = some href)
    (hvalue : ∀ c ∈ value.toList, isSeparator c = false) :
    href ≠ "" ∧ ∀ c ∈ href.toList, isSeparator c = false := by
  obtain ⟨url, hparse, -, -, -, rfl⟩ := acceptedUrl_eq_some.mp h
  refine ⟨fun hempty => ?_, hurl.unseparated value url hparse hvalue⟩
  have hagain := hurl.reparses value url hparse
  rw [hempty, hurl.empty] at hagain
  cases hagain

end Collected

/-! ## Parts hold no separator -/

theorem splitSource_of_unseparated {l : List Char} (h : ∀ c ∈ l, isSeparator c = false) :
    splitSource l = [l] := by
  induction l with
  | nil => rfl
  | cons c rest ih =>
      have hc := h c List.mem_cons_self
      have hrest : ∀ d ∈ rest, isSeparator d = false := fun d hd => h d (List.mem_cons_of_mem c hd)
      rcases rest with _ | ⟨d, rest⟩
      · rw [splitSource, hc]
        rfl
      · rw [splitSource, hc, ih hrest]
        rfl

theorem unseparated_prepend {c : Char} (hc : isSeparator c = false) {parts : List (List Char)}
    (h : ∀ part ∈ parts, ∀ d ∈ part, isSeparator d = false) :
    ∀ part ∈ prepend c parts, ∀ d ∈ part, isSeparator d = false := by
  rcases parts with _ | ⟨first, others⟩
  · simpa [prepend] using hc
  · intro part hpart d hd
    rcases List.mem_cons.mp hpart with rfl | hpart
    · rcases List.mem_cons.mp hd with rfl | hd
      · exact hc
      · exact h first List.mem_cons_self d hd
    · exact h part (List.mem_cons_of_mem first hpart) d hd

/-- The parts of a source hold no separator. -/
theorem unseparated_splitSource (l : List Char) :
    ∀ part ∈ splitSource l, ∀ c ∈ part, isSeparator c = false := by
  induction l with
  | nil => simp [splitSource]
  | cons c rest ih =>
      rcases rest with _ | ⟨d, rest⟩
      · by_cases hc : isSeparator c = true
        · simp [splitSource, hc]
        · rw [splitSource, if_neg hc]
          simpa using hc
      · by_cases hc : isSeparator c = true
        · by_cases hd : isSeparator d = true
          · rw [splitSource, if_pos hc, if_pos hd]
            exact ih
          · rw [splitSource, if_pos hc, if_neg hd]
            intro part hpart
            rcases List.mem_cons.mp hpart with rfl | hpart
            · simp
            · exact ih part hpart
        · rw [splitSource, if_neg hc]
          exact unseparated_prepend (by simpa using hc) ih

theorem trim_unseparated {l : List Char} (h : ∀ c ∈ l, isSeparator c = false) :
    trim (String.ofList l) = String.ofList l := by
  refine trim_eq_self fun c hc => ?_
  rw [String.toList_ofList] at hc
  have hsep := h c hc
  rw [isSeparator, Bool.or_eq_false_iff] at hsep
  exact hsep.1

theorem unseparated_spellings {sources : List (Option String)} {value : String}
    (h : value ∈ spellings sources) : ∀ c ∈ value.toList, isSeparator c = false := by
  obtain ⟨part, hpart, hvalue⟩ := List.mem_filterMap.mp h
  obtain ⟨source, -, hpart⟩ := List.mem_flatMap.mp hpart
  have hunseparated : ∀ c ∈ part, isSeparator c = false := by
    rw [sourceParts] at hpart
    split at hpart
    · cases hpart
    · exact unseparated_splitSource _ part hpart
  obtain rfl : trim (String.ofList part) = value := by
    exact Option.some.inj (truthy_eq_some.mp hvalue).1
  rw [trim_unseparated hunseparated, String.toList_ofList]
  exact hunseparated

/-- Endpoints listed one by one are their own spellings. -/
theorem spellings_of_unseparated {urls : List String}
    (h : ∀ url ∈ urls, url ≠ "" ∧ ∀ c ∈ url.toList, isSeparator c = false) :
    spellings (urls.map some) = urls := by
  induction urls with
  | nil => rfl
  | cons url rest ih =>
      obtain ⟨hne, hunseparated⟩ := h url List.mem_cons_self
      have hsource : sourceParts (some url) = [url.toList] := by
        simp only [sourceParts, truthy_eq_some.mpr ⟨rfl, hne⟩,
          splitSource_of_unseparated hunseparated]
      have hpart : partSpelling url.toList = some url := by
        rw [partSpelling, trim_unseparated hunseparated, String.ofList_toList]
        exact truthy_eq_some.mpr ⟨rfl, hne⟩
      have hrest := ih fun u hu => h u (List.mem_cons_of_mem url hu)
      rw [spellings] at hrest
      rw [spellings, List.map_cons, List.flatMap_cons, hsource, List.singleton_append,
        List.filterMap_cons_some hpart, hrest]

/-! ## Failover -/

theorem sessionsTried_initial (comesThrough : Nat → String → Bool) (n : Nat) (urls : List String) :
    sessionsTried comesThrough n urls <+: urls := by
  induction urls generalizing n with
  | nil => exact List.prefix_refl _
  | cons url rest ih =>
      rw [sessionsTried]
      split
      · exact ⟨rest, rfl⟩
      · exact (List.prefix_cons_inj url).mpr (ih (n + 1))

theorem nodup_healthyFirst {cooldownUntil : String → Option Int} {now : Int} {urls : List String}
    (h : urls.Nodup) : (healthyFirst cooldownUntil now urls).Nodup := by
  rw [healthyFirst]
  split
  · exact h.filter _
  · refine List.Nodup.sublist (List.take_sublist 1 _) ?_
    exact (List.mergeSort_perm urls _).nodup_iff.mpr h

/-! ## Duplicate-free and stable lists -/

/-- What is expected of the endpoints listed by `sources`. -/
structure EndpointsStable (parse : UrlParser) (sources : List (Option String)) : Prop where
  once : (parseRpcUrls parse sources).Nodup
  ordered : parseRpcUrls parse sources =
    ((spellings sources).filterMap (acceptedUrl parse)).eraseDups
  again : parseRpcUrls parse ((parseRpcUrls parse sources).map some) = parseRpcUrls parse sources
  client : parseRpcUrls parse sources ≠ [] →
    newCkbRpcClient parse (parseRpcUrls parse sources) = .ok (parseRpcUrls parse sources)
  failover : ∀ held, newCkbRpcClient parse (parseRpcUrls parse sources) = .ok held →
    ∀ cooldownUntil now comesThrough,
      (sessionsTried comesThrough 0 (healthyFirst cooldownUntil now held)).Nodup
  inspectable : ∀ held, newCkbRpcClient parse (parseRpcUrls parse sources) = .ok held →
    ∀ primary, ∀ endpoint ∈ parseRpcUrls parse sources, endpoint ≠ primary →
      inspectableAt held endpoint = true

section Stable

variable {parse : UrlParser} (hurl : parse.Serializes) {sources : List (Option String)}

include hurl in
/-- Parsing a parsed list again reads every endpoint as it stands. -/
theorem spellings_again :
    spellings ((parseRpcUrls parse sources).map some) = parseRpcUrls parse sources := by
  refine spellings_of_unseparated fun url hmem => ?_
  have hnorm := acceptedUrl_idempotent hurl
  rw [parseRpcUrls_eq] at hmem
  have hlisted := (Js.mem_collect_iff hnorm url).mp hmem
  obtain ⟨value, hvalue, haccepted⟩ := List.mem_filterMap.mp hlisted
  exact unseparated_of_accepted hurl haccepted (unseparated_spellings hvalue)

include hurl in
theorem endpoints_stable (h : RepeatsNormal (acceptedUrl parse) (spellings sources)) :
    EndpointsStable parse sources := by
  have hnorm := acceptedUrl_idempotent hurl
  have hcollected : parseRpcUrls parse sources =
      collect (acceptedUrl parse) [] (spellings sources) := parseRpcUrls_eq sources
  have honce : (parseRpcUrls parse sources).Nodup := by
    rw [hcollected]
    exact (Js.nodup_collect_iff hnorm (by simp) (by simp)).mpr h
  have hagain : parseRpcUrls parse ((parseRpcUrls parse sources).map some) =
      parseRpcUrls parse sources := by
    rw [parseRpcUrls_eq, spellings_again hurl]
    refine Js.collect_again hnorm (fun url hmem => ?_) honce
    rw [hcollected] at hmem
    exact Js.normal_of_mem_collect hnorm hmem
  have hheld : ∀ held, newCkbRpcClient parse (parseRpcUrls parse sources) = .ok held →
      held = parseRpcUrls parse sources := by
    intro held hclient
    rw [newCkbRpcClient, hagain] at hclient
    split at hclient
    · cases hclient
    · exact (Except.ok.inj hclient).symm
  constructor
  · exact honce
  · rw [hcollected, Js.collect_eq_eraseDups hnorm (by simp) (by simp) h]
    simp
  · exact hagain
  · intro hne
    rw [newCkbRpcClient, hagain, if_neg hne]
  · intro held hclient cooldownUntil now comesThrough
    rw [hheld held hclient]
    exact (nodup_healthyFirst honce).sublist (sessionsTried_initial comesThrough 0 _).sublist
  · intro held hclient primary endpoint hmem hne
    rw [hheld held hclient]
    exact decide_eq_true hmem

end Stable

/-- Endpoint lists are duplicate-free and stable exactly when every spelling that repeats an endpoint
is written the way the URL parser serializes it. -/
theorem endpoint_lists_stable_iff (parse : UrlParser) (hurl : parse.Serializes)
    (sources : List (Option String)) :
    EndpointsStable parse sources ↔ RepeatsNormal (acceptedUrl parse) (spellings sources) := by
  constructor
  · intro h
    have honce := h.once
    rw [parseRpcUrls_eq] at honce
    exact (Js.nodup_collect_iff (acceptedUrl_idempotent hurl) (by simp) (by simp)).mp honce
  · exact endpoints_stable hurl

/-! ## A repeated endpoint -/

/-- A URL parser for one endpoint, which it serializes with a slash at the end. -/
def slashParser : UrlParser := fun text =>
  if text = "https://rpc.example" ∨ text = "https://rpc.example/" then
    some { href := "https://rpc.example/", protocol := "https:", username := "", password := "" }
  else none

theorem slashParser_serializes : slashParser.Serializes where
  reparses := by
    intro value url h
    rw [slashParser] at h
    split at h
    · cases h
      rfl
    · cases h
  unseparated := by
    intro value url h _
    rw [slashParser] at h
    split at h
    · cases h
      intro c hc
      have hnone : "https://rpc.example/".toList.any isSeparator = false := by decide +kernel
      exact Bool.eq_false_iff.mpr (List.any_eq_false.mp hnone c hc)
    · cases h
  empty := by decide +kernel

theorem endpoint_lists_stable_iff_slash :
    EndpointsStable slashParser [some "https://rpc.example https://rpc.example/"] ↔
      RepeatsNormal (acceptedUrl slashParser)
        (spellings [some "https://rpc.example https://rpc.example/"]) :=
  endpoint_lists_stable_iff slashParser slashParser_serializes _

/-- Without the slash the repetition is not noticed. -/
theorem repeated_endpoint_listed_twice :
    slashParser.Serializes ∧
      parseRpcUrls slashParser [some "https://rpc.example", some "https://rpc.example"] =
        ["https://rpc.example/", "https://rpc.example/"] ∧
      ¬ EndpointsStable slashParser [some "https://rpc.example", some "https://rpc.example"] := by
  have htwice : parseRpcUrls slashParser [some "https://rpc.example", some "https://rpc.example"] =
      ["https://rpc.example/", "https://rpc.example/"] := by decide +kernel
  refine ⟨slashParser_serializes, htwice, fun h => ?_⟩
  have honce := h.once
  rw [htwice] at honce
  exact absurd honce (by decide)

end CellFlow
