import NotionProject.Proofs.FailFast
import NotionProject.Proofs.Resolution
import NotionProject.Proofs.Uniqueness

/-!
# The structure of a project

Two calls look for the sections of a project: `Project.hasStructure` says whether a page has all
of them, and a search by title finds them. They are compared against a server that answers equal
requests equally: it is a function from requests to replies, and `Call.AnsweredBy` says of the
replies to a call that they are its answers.

The check reads the first part of the children and goes by the titles that blocks carry
(`hasStructure_eq_true_iff`). The search reads all parts and goes by the types of the blocks as
well (`exists_first_part`). So they agree as far as no block but a page carries the title of a
page, and as far as the first part is all there is (`hasStructure_and_search`); a block of another
type makes them disagree (`hasStructure_without_page`).
-/

namespace NotionProject

variable {α β : Type} {respond : Request → Reply}

/-! ## Equal answers to equal requests -/

/-- The replies to the call begin with the answers of the server to the requests of the call. -/
structure Call.AnsweredBy (respond : Request → Reply) (call : Call α) (replies : List Reply) :
    Prop where
  answers : (call.run (.scripted replies)).requests.map respond <+: replies
  reached : .unreachable ∉ replies

/-- The server answers an inquiry with the value. -/
def Client.Receives (client : Client) (respond : Request → Reply) (inquiry : Inquiry)
    (value : inquiry.Result) : Prop :=
  ∃ request, client.sent? inquiry.exchange = some request ∧
    (respond request).Carries inquiry.decoder value

/-- An inquiry is answered with one value at most. -/
theorem Client.Receives.unique {client : Client} {inquiry : Inquiry}
    {value other : inquiry.Result} (h : client.Receives respond inquiry value)
    (h' : client.Receives respond inquiry other) : value = other := by
  obtain ⟨request, hs, hc⟩ := h
  obtain ⟨_, hs', hc'⟩ := h'
  obtain rfl := Option.some.inj (hs.symm.trans hs')
  exact hc.unique hc'

namespace Call

variable {call : Call α} {next : α → Call β} {replies : List Reply}

/-- What is asked first is asked by two calls in a row as well. -/
theorem requests_prefix_bind (call : Call α) (next : α → Call β) (server : Server) :
    (call.run server).requests <+: ((call >>= next).run server).requests := by
  cases ho : (call.run server).outcome with
  | error failure =>
    rw [run_bind_of_error ho]
    exact List.prefix_rfl
  | ok value =>
    rw [run_bind_of_ok ho]
    exact ⟨_, List.filterMap_append.symm⟩

namespace AnsweredBy

/-- The replies to two calls in a row answer the first one. -/
theorem first (h : (call >>= next).AnsweredBy respond replies) :
    call.AnsweredBy respond replies :=
  ⟨((requests_prefix_bind call next _).map respond).trans h.answers, h.reached⟩

/-- The replies that the first one leaves answer the second one. -/
theorem second (h : (call >>= next).AnsweredBy respond replies) {value : α}
    {requests : List Request} {rest : List Reply}
    (hc : (call.run (.scripted replies)).ComesTo (.ok value) requests (.scripted rest))
    (hr : replies = requests.map respond ++ rest) : (next value).AnsweredBy respond rest := by
  have hrun := (hc.bind ⟨rfl, rfl, rfl⟩ : ((call >>= next).run (.scripted replies)).ComesTo _ _ _)
  have hanswers := h.answers
  rw [hrun.requests_eq, List.map_append, hr] at hanswers
  refine ⟨(List.prefix_append_right_inj _).1 hanswers, fun hm => h.reached ?_⟩
  rw [hr]
  exact List.mem_append_right _ hm

/-- An exchange comes to the value that the server answers with, or fails for want of one. -/
theorem receives_or_fails {client : Client} (inquiry : Inquiry)
    (h : (client.perform inquiry.exchange).AnsweredBy respond replies) :
    (∃ value requests rest, client.Receives respond inquiry value ∧
      replies = requests.map respond ++ rest ∧
      ((client.perform inquiry.exchange).run (.scripted replies)).ComesTo (.ok value) requests
        (.scripted rest)) ∨
    (∀ value, ¬client.Receives respond inquiry value) ∧ ∃ failure requests left,
      ((client.perform inquiry.exchange).run (.scripted replies)).ComesTo (.error failure)
        requests left := by
  cases hs : client.sent? inquiry.exchange with
  | none =>
    refine Or.inr ⟨?_, _, _, _, Client.comesTo_perform_unsent hs _⟩
    rintro value ⟨request, hs', -⟩
    cases hs.symm.trans hs'
  | some request =>
    have hrun := Client.comesTo_perform inquiry.read_exchange hs
      (Server.headD_ne_unreachable h.reached)
    have hanswers := h.answers
    rw [hrun.requests_eq] at hanswers
    obtain ⟨rest, rfl⟩ := hanswers
    cases hv : (respond request).verdict inquiry.decoder request with
    | ok value =>
      have hcarries := Reply.verdict_eq_ok_iff.1 hv
      exact Or.inl ⟨value, [request], rest, ⟨request, hs, hcarries⟩, rfl,
        ⟨hrun.outcome_eq.trans hv, hrun.requests_eq, hrun.server_eq⟩⟩
    | error failure =>
      refine Or.inr ⟨?_, failure, _, _, hrun.outcome_eq.trans hv, rfl, rfl⟩
      rintro value ⟨request', hs', hc⟩
      obtain rfl := Option.some.inj (hs.symm.trans hs')
      rw [Reply.verdict_eq_ok_iff.2 hc] at hv
      cases hv

end AnsweredBy

end Call

/-- No section has the title of a page that carries none. -/
theorem Section.title_ne_empty (part : Section) : part.title ≠ "" := by
  cases part <;> decide

namespace Project

variable {project : Project} {root : Identifier} {title : String} {replies : List Reply}

/-! ## The check -/

/-- No section is missing exactly if the title of each is carried as the title of a page. -/
theorem missingSections_eq_nil_iff {blocks : List Block} :
    missingSections blocks = [] ↔
      ∀ part : Section, ∃ block ∈ blocks, block.pageTitle? = some part.title := by
  have hall : ∀ part : Section, part ∈ Section.all := by
    intro part
    cases part <;> decide
  simp [missingSections, List.filter_eq_nil_iff, hall]

section Check

variable {first second : List Request} {left : Server} {rest : List Reply}

/-- A page that does not exist has no structure. -/
theorem comesTo_hasStructure_of_missing
    (h : ((project.pageExists root).run (.scripted replies)).ComesTo (.ok false) first left) :
    ((project.hasStructure root).run (.scripted replies)).ComesTo (.ok false) first left :=
  h.andFinally ((Call.comesTo_log _ _ left).after (Call.comesTo_pure false left))

/-- Nor has a page whose children cannot be listed. -/
theorem comesTo_hasStructure_of_error {failure : Failure}
    (h : ((project.pageExists root).run (.scripted replies)).ComesTo (.ok true) first
      (.scripted rest))
    (hc : ((project.client.perform (Endpoint.children root none)).run (.scripted rest)).ComesTo
      (.error failure) second left) :
    ((project.hasStructure root).run (.scripted replies)).ComesTo (.ok false) (first ++ second)
      left :=
  h.bind ((Call.comesTo_attempt hc).andFinally
    ((Call.comesTo_log _ _ left).after (Call.comesTo_pure false left)))

/-- Any other page has it if no section is missing among the first of its children. -/
theorem comesTo_hasStructure {listing : Listing Block}
    (h : ((project.pageExists root).run (.scripted replies)).ComesTo (.ok true) first
      (.scripted rest))
    (hc : ((project.client.perform (Endpoint.children root none)).run (.scripted rest)).ComesTo
      (.ok listing) second left) :
    ((project.hasStructure root).run (.scripted replies)).ComesTo
      (.ok (missingSections listing.results).isEmpty) (first ++ second) left := by
  refine h.bind ((Call.comesTo_attempt hc).andFinally ?_)
  dsimp only
  cases (missingSections listing.results).isEmpty with
  | true => exact Call.comesTo_pure true left
  | false => exact (Call.comesTo_log _ _ left).after (Call.comesTo_pure false left)

end Check

/-- A page has the structure of a project exactly if it can be read, and the first part of its
children has, for each section, a block that carries its title as the title of a page. -/
theorem hasStructure_eq_true_iff (h : (project.hasStructure root).AnsweredBy respond replies) :
    ((project.hasStructure root).run (.scripted replies)).outcome = .ok true ↔
      (∃ page, project.client.Receives respond (.page root) page) ∧
        ∃ listing, project.client.Receives respond (.children root none) listing ∧
          ∀ part : Section, ∃ block ∈ listing.results, block.pageTitle? = some part.title := by
  have hpage : (project.client.perform (Endpoint.page root)).AnsweredBy respond replies :=
    ⟨h.first.first.answers, h.reached⟩
  rcases hpage.receives_or_fails (.page root) with
    ⟨page, requests, rest, hp, hr, hrun⟩ | ⟨hnone, failure, requests, left, hrun⟩
  · have hexists := comesTo_pageExists_of_ok hrun
    have hsecond := h.second hexists hr
    have hchildren : (project.client.perform (Endpoint.children root none)).AnsweredBy respond
        rest := ⟨hsecond.first.answers, hsecond.reached⟩
    rcases hchildren.receives_or_fails (.children root none) with
      ⟨listing, _, _, hl, -, hrun⟩ | ⟨hnone, failure, _, _, hrun⟩
    · rw [(comesTo_hasStructure hexists hrun).outcome_eq, Except.ok.injEq, List.isEmpty_iff,
        missingSections_eq_nil_iff]
      refine ⟨fun hall => ⟨⟨page, hp⟩, listing, hl, hall⟩, ?_⟩
      rintro ⟨-, other, ho, hall⟩
      obtain rfl := hl.unique ho
      exact hall
    · rw [(comesTo_hasStructure_of_error hexists hrun).outcome_eq]
      refine iff_of_false (by simp) ?_
      rintro ⟨-, listing, hl, -⟩
      exact hnone listing hl
  · rw [(comesTo_hasStructure_of_missing (comesTo_pageExists_of_error hrun)).outcome_eq]
    refine iff_of_false (by simp) ?_
    rintro ⟨⟨page, hp⟩, -⟩
    exact hnone page hp

/-! ## The search -/

theorem pagesNamed_ne_nil_iff {blocks : List Block} :
    pagesNamed title blocks ≠ [] ↔
      ∃ block ∈ blocks, block.type = "child_page" ∧ block.pageTitle?.getD "" = title := by
  simp [pagesNamed, List.filter_eq_nil_iff]

/-- A search for pages begins with the first part of the children, which may be all there is. -/
theorem exists_first_part
    (h : (project.matchingChildren .page root title).AnsweredBy respond replies)
    {found : List Identifier}
    (hok : ((project.matchingChildren .page root title).run (.scripted replies)).outcome =
      .ok found) :
    ∃ part others, project.client.Receives respond (.children root none) part ∧
      (part.IsLast → others = []) ∧
      found = pagesNamed title (part.results ++ others.flatMap Listing.results) := by
  obtain ⟨taken, later, parts, rfl, hd, -⟩ := exists_delivers_of_matchingChildren h.reached hok
  have hrun := comesTo_matchingChildren hd (comesTo_matchesAmong_page title (.scripted later) _)
  cases parts with
  | nil => simpa using hd.ends
  | cons part others =>
    obtain ⟨reply, rest, request, rfl, hc, -, hs⟩ := hd.head
    have hanswers := h.answers
    rw [hrun.requests_eq, Walk.requestsFor_cons hs] at hanswers
    obtain rfl : respond request = reply := (List.cons_prefix_cons.1 hanswers).1
    refine ⟨part, others, ⟨request, hs, hc⟩, fun hlast => ?_, ?_⟩
    · by_contra hne
      obtain ⟨next, rest', rfl⟩ := List.exists_cons_of_ne_nil hne
      exact hd.goesOn part (by simp [List.dropLast]) hlast
    · exact Except.ok.inj (hok.symm.trans hrun.outcome_eq)

/-- A title that is carried by a page in the first part of the children is found. -/
theorem matchingChildren_ne_ok_nil
    (h : (project.matchingChildren .page root title).AnsweredBy respond replies)
    {listing : Listing Block} (hl : project.client.Receives respond (.children root none) listing)
    {block : Block} (hb : block ∈ listing.results) (htype : block.type = "child_page")
    (htitle : block.pageTitle? = some title) :
    ((project.matchingChildren .page root title).run (.scripted replies)).outcome ≠ .ok [] := by
  intro hok
  obtain ⟨part, others, hp, -, hnil⟩ := exists_first_part h hok
  obtain rfl := hl.unique hp
  refine pagesNamed_ne_nil_iff.2 ⟨block, List.mem_append_left _ hb, htype, ?_⟩ hnil.symm
  rw [htitle, Option.getD_some]

/-- Only if there is no match a search reports that there is none. -/
theorem ok_nil_of_notFound {kind k : Kind} {t : String} {server : Server}
    {final : List Identifier → Except Failure β}
    (hfinal : ∀ {found}, final found = .error (.notFound k t) → found = [])
    (h : ((project.matchingChildren kind root title >>= fun found =>
      Call.ofExcept (final found)).run server).outcome = .error (.notFound k t)) :
    ((project.matchingChildren kind root title).run server).outcome = .ok [] := by
  rw [Call.run_bind_ofExcept] at h
  cases ho : ((project.matchingChildren kind root title).run server).outcome with
  | ok found =>
    rw [ho] at h
    rw [hfinal h]
  | error failure =>
    rw [ho] at h
    obtain rfl := Except.error.inj h
    exact (isOfExchange_of_matchingChildren ho).elim

theorem eq_nil_of_everyMatch {kind k : Kind} {t : String} {found : List Identifier}
    (h : everyMatch kind title found = .error (.notFound k t)) : found = [] := by
  cases found with
  | nil => rfl
  | cons id rest => cases h

theorem ne_nil_of_everyMatch {kind : Kind} {found ids : List Identifier}
    (h : everyMatch kind title found = .ok ids) : found ≠ [] := by
  rintro rfl
  cases h

theorem eq_nil_of_onlyMatch {kind k : Kind} {t : String} {found : List Identifier}
    (h : onlyMatch kind title found = .error (.notFound k t)) : found = [] := by
  match found with
  | [] => rfl
  | [_] => cases h
  | _ :: _ :: _ => cases h

/-! ## Both -/

/-- Against a server that answers equal requests equally the check and the search agree on what a
section is, with two provisos. If a page has the structure of a project, and the title of a section
is carried by no other blocks than pages, then a search for that section below the page does not
report that there is none, in either of its forms. If the page can be read, and there is but one
part of its children, and a search finds every section, then the page has the structure. -/
theorem hasStructure_and_search (project : Project) (root : Identifier)
    (respond : Request → Reply) {replies : List Reply}
    (h : (project.hasStructure root).AnsweredBy respond replies) :
    let valid := ((project.hasStructure root).run (.scripted replies)).outcome = .ok true
    (valid → ∀ part : Section,
      (∀ listing, project.client.Receives respond (.children root none) listing →
        ∀ block ∈ listing.results, block.pageTitle? = some part.title →
          block.type = "child_page") →
      ∀ (others : List Reply) (kind : Kind) (title : String),
        ((project.findAll .page root part.title).AnsweredBy respond others →
          ((project.findAll .page root part.title).run (.scripted others)).outcome ≠
            .error (.notFound kind title)) ∧
        (project.root = root → (project.sectionPage part).AnsweredBy respond others →
          ((project.sectionPage part).run (.scripted others)).outcome ≠
            .error (.notFound kind title))) ∧
    ((∃ page, project.client.Receives respond (.page root) page) →
      (∃ listing, project.client.Receives respond (.children root none) listing ∧
        listing.IsLast) →
      (∀ part : Section, ∃ others found,
        (project.findAll .page root part.title).AnsweredBy respond others ∧
          ((project.findAll .page root part.title).run (.scripted others)).outcome = .ok found) →
      valid) := by
  intro valid
  have hvalid := hasStructure_eq_true_iff h
  refine ⟨fun hv part htypes others kind title => ?_, fun hpage hlisting hfound => ?_⟩
  · obtain ⟨-, listing, hl, hall⟩ := hvalid.1 hv
    obtain ⟨block, hb, htitle⟩ := hall part
    have htype := htypes listing hl block hb htitle
    constructor
    · intro ha ho
      exact matchingChildren_ne_ok_nil ha.first hl hb htype htitle
        (ok_nil_of_notFound eq_nil_of_everyMatch ho)
    · rintro rfl ha ho
      exact matchingChildren_ne_ok_nil ha.first hl hb htype htitle
        (ok_nil_of_notFound eq_nil_of_onlyMatch ho)
  · obtain ⟨listing, hl, hlast⟩ := hlisting
    refine hvalid.2 ⟨hpage, listing, hl, fun part => ?_⟩
    obtain ⟨others, found, ha, ho⟩ := hfound part
    obtain ⟨ids, hids, he⟩ := Call.outcome_bind_eq_ok_iff.1 ho
    obtain ⟨first, rest, hf, hrest, rfl⟩ := exists_first_part ha.first hids
    obtain rfl := hl.unique hf
    rw [hrest hlast, List.flatMap_nil, List.append_nil, (Call.comesTo_ofExcept _ _).outcome_eq]
      at he
    obtain ⟨block, hb, -, htitle⟩ := pagesNamed_ne_nil_iff.1 (ne_nil_of_everyMatch he)
    refine ⟨block, hb, ?_⟩
    cases ht : block.pageTitle? with
    | none =>
      rw [ht] at htitle
      exact absurd htitle.symm part.title_ne_empty
    | some title =>
      rw [ht] at htitle
      exact congrArg some htitle

/-! ## A section that is no page -/

/-- A page for each of two sections, and a block of any type that carries the title of the
third. -/
def sampleListing (type : String) : Listing Block :=
  ⟨"", [.ofPage (.ofRandom 1) "Datasets", .ofPage (.ofRandom 2) "Experiments",
    ⟨.ofRandom 3, type, some ⟨"Comparisons"⟩, none⟩], none, false⟩

def sampleListingText (type : String) : String :=
  "\x7b\"results\":[" ++
    Walk.blockText "10000000000040008000000000000000" "child_page" "Datasets" ++
    "," ++ Walk.blockText "20000000000040008000000000000000" "child_page" "Experiments" ++
    ",\x7b\"id\":\"30000000000040008000000000000000\",\"type\":\"" ++ type ++
    "\",\"child_page\":\x7b\"title\":\"Comparisons\"\x7d\x7d]\x7d"

theorem toList_sampleListingText (type : String) : (sampleListingText type).toList =
    "\x7b\"results\":[".toList ++
      (Walk.blockText "10000000000040008000000000000000" "child_page" "Datasets").toList ++
      ",".toList ++
      (Walk.blockText "20000000000040008000000000000000" "child_page" "Experiments").toList ++
      ",\x7b\"id\":\"30000000000040008000000000000000\",\"type\":\"".toList ++ type.toList ++
      "\",\"child_page\":\x7b\"title\":\"Comparisons\"\x7d\x7d]\x7d".toList := by
  unfold sampleListingText
  simp only [String.toList_append]

def samplePageText : String :=
  "\x7b\"id\":\"00000000000040008000000000000000\"\x7d"

/-- A server that has these for children of a page. Only requests for children have a query. -/
def sampleServer (type : String) (request : Request) : Reply :=
  .answer 200 (if request.url.query.isSome then sampleListingText type else samplePageText)

/-- The project of that page. -/
def sample : Project :=
  ⟨.ofRandom 0, .sample "http://a/v1"⟩

theorem exists_sampleServer_page (type : String) :
    ∃ request, sample.client.sent? (Endpoint.page sample.root) = some request ∧
      sampleServer type request = .answer 200 samplePageText := by
  have h : (sample.client.sent? (Endpoint.page sample.root)).map (·.url.query.isSome) =
      some false := by decide +kernel
  obtain ⟨request, hs, hq⟩ := Option.map_eq_some_iff.1 h
  exact ⟨request, hs, by simp [sampleServer, hq]⟩

theorem exists_sampleServer_children (type : String) :
    ∃ request, sample.client.sent? (Endpoint.children sample.root none) = some request ∧
      sampleServer type request = .answer 200 (sampleListingText type) := by
  have h : (sample.client.sent? (Endpoint.children sample.root none)).map
      (·.url.query.isSome) = some true := by decide +kernel
  obtain ⟨request, hs, hq⟩ := Option.map_eq_some_iff.1 h
  exact ⟨request, hs, by simp [sampleServer, hq]⟩

theorem exists_carries_samplePage :
    ∃ page, (Reply.answer 200 samplePageText).Carries Page.decode page := by
  have h : (Decoder.ofText Page.decode samplePageText).toOption.map Page.id =
      some (.ofRandom 0) := by decide +kernel
  obtain ⟨page, hc, -⟩ := Reply.exists_carries h
  exact ⟨page, hc⟩

theorem receives_samplePage {type : String} :
    ∃ page, sample.client.Receives (sampleServer type) (.page sample.root) page := by
  obtain ⟨request, hs, hp⟩ := exists_sampleServer_page type
  obtain ⟨page, hpage⟩ := exists_carries_samplePage
  exact ⟨page, request, hs, hp ▸ hpage⟩

section Sample

variable {type : String}
  (hc : (Reply.answer 200 (sampleListingText type)).Carries (Listing.decode Block.decode)
    (sampleListing type))

include hc

theorem receives_sampleListing :
    sample.client.Receives (sampleServer type) (.children sample.root none)
      (sampleListing type) := by
  obtain ⟨request, hs, hl⟩ := exists_sampleServer_children type
  exact ⟨request, hs, hl ▸ hc⟩

/-- The check goes by the titles alone, whatever the type. -/
theorem hasStructure_sample :
    let replies := [.answer 200 samplePageText, .answer 200 (sampleListingText type)]
    (sample.hasStructure sample.root).AnsweredBy (sampleServer type) replies ∧
      ((sample.hasStructure sample.root).run (.scripted replies)).outcome = .ok true := by
  obtain ⟨first, hs, hp⟩ := exists_sampleServer_page type
  obtain ⟨second, hs', hl⟩ := exists_sampleServer_children type
  obtain ⟨page, hpage⟩ := exists_carries_samplePage
  have hrun := comesTo_hasStructure
    (comesTo_pageExists_of_ok (Client.comesTo_carried rfl hs hpage _))
    (Client.comesTo_carried rfl hs' hc [])
  refine ⟨⟨?_, by rintro (_ | ⟨_, _ | ⟨_, ⟨⟩⟩⟩)⟩, hrun.outcome_eq⟩
  rw [hrun.requests_eq, List.map_append, List.map_singleton, List.map_singleton, hp, hl]
  exact List.prefix_rfl

/-- The search goes by the type as well. -/
theorem findAll_sample (part : Section) :
    let replies := [.answer 200 (sampleListingText type)]
    let search := sample.findAll .page sample.root part.title
    search.AnsweredBy (sampleServer type) replies ∧
      (search.run (.scripted replies)).outcome =
        everyMatch .page part.title (pagesNamed part.title (sampleListing type).results) := by
  obtain ⟨request, hs, hl⟩ := exists_sampleServer_children type
  have hd : sample.DeliversChildren sample.root _ [sampleListing type] :=
    .single hc hs (Or.inl rfl)
  have hrun := comesTo_findAll hd (comesTo_matchesAmong_page part.title (.scripted []) _)
  rw [List.append_nil] at hrun
  refine ⟨⟨?_, by rintro (_ | ⟨_, ⟨⟩⟩)⟩, ?_⟩
  · rw [hrun.requests_eq, Walk.requestsFor_cons hs, List.append_nil, List.map_cons, hl]
    exact List.prefix_rfl
  · rw [hrun.outcome_eq, everyMatch_eq, List.flatMap_singleton]

end Sample

/-- If the third block is a page as well, the check says yes, and the search finds every
section. -/
theorem hasStructure_and_search_sample :
    let server := sampleServer "child_page"
    let listing := Reply.answer 200 (sampleListingText "child_page")
    let check := sample.hasStructure sample.root
    let checked := [.answer 200 samplePageText, listing]
    check.AnsweredBy server checked ∧ (check.run (.scripted checked)).outcome = .ok true ∧
      ∀ part : Section,
        let search := sample.findAll .page sample.root part.title
        search.AnsweredBy server [listing] ∧
          (search.run (.scripted [listing])).outcome ≠ .error (.notFound .page part.title) := by
  have hc : (Reply.answer 200 (sampleListingText "child_page")).Carries
      (Listing.decode Block.decode) (sampleListing "child_page") :=
    Walk.carries_of_parts <| by
      rw [Decoder.ofText, Source.ofText, toList_sampleListingText, Walk.toList_blockText,
        Walk.toList_blockText]
      decide +kernel
  have htypes : ∀ block ∈ (sampleListing "child_page").results, block.type = "child_page" := by
    decide +kernel
  have hfound : ∀ part : Section,
      ∃ id, pagesNamed part.title (sampleListing "child_page").results = [id] := by
    intro part
    cases part with
    | datasets => exact ⟨.ofRandom 1, by decide +kernel⟩
    | experiments => exact ⟨.ofRandom 2, by decide +kernel⟩
    | comparisons => exact ⟨.ofRandom 3, by decide +kernel⟩
  obtain ⟨hcheck, -⟩ := hasStructure_sample hc
  obtain ⟨hsound, hcomplete⟩ := hasStructure_and_search sample sample.root _ hcheck
  have hlisting := receives_sampleListing hc
  have hvalid := hcomplete receives_samplePage ⟨_, hlisting, Or.inl rfl⟩ fun part => by
    obtain ⟨id, hid⟩ := hfound part
    obtain ⟨ha, ho⟩ := findAll_sample hc part
    rw [hid] at ho
    exact ⟨_, [id], ha, ho⟩
  refine ⟨hcheck, hvalid, fun part => ?_⟩
  have ha := (findAll_sample hc part).1
  refine ⟨ha, (hsound hvalid part (fun other ho block hb _ => ?_) _ _ _).1 ha⟩
  obtain rfl := hlisting.unique ho
  exact htypes block hb

/-- With a block of type `child_database` the check says yes, and the search finds nothing. -/
theorem hasStructure_without_page :
    let server := sampleServer "child_database"
    let listing := Reply.answer 200 (sampleListingText "child_database")
    let check := sample.hasStructure sample.root
    let checked := [.answer 200 samplePageText, listing]
    let search := sample.findAll .page sample.root Section.comparisons.title
    check.AnsweredBy server checked ∧ search.AnsweredBy server [listing] ∧
      (check.run (.scripted checked)).outcome = .ok true ∧
      (search.run (.scripted [listing])).outcome = .error (.notFound .page "Comparisons") := by
  have hc : (Reply.answer 200 (sampleListingText "child_database")).Carries
      (Listing.decode Block.decode) (sampleListing "child_database") :=
    Walk.carries_of_parts <| by
      rw [Decoder.ofText, Source.ofText, toList_sampleListingText, Walk.toList_blockText,
        Walk.toList_blockText]
      decide +kernel
  obtain ⟨hcheck, hyes⟩ := hasStructure_sample hc
  obtain ⟨hsearch, hno⟩ := findAll_sample hc .comparisons
  have hnone : pagesNamed Section.comparisons.title (sampleListing "child_database").results =
      [] := by decide +kernel
  refine ⟨hcheck, hsearch, hyes, hno.trans ?_⟩
  rw [hnone, everyMatch, Section.title]

end Project

end NotionProject
