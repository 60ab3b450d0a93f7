import NotionProject.Proofs.Existence
import NotionProject.Proofs.Structure

/-!
# Checking the sections of a project

To check a page, `Project.hasStructure` asks for the page, and only if the first reply carries one
it asks for the first part of the children. Three cases are all there are: the page is not seen, its
children are not listed, or they are (`comesTo_hasStructure_of_not_seen`, `_of_not_listed`,
`_of_listed`). So the check always has an answer (`exists_comesTo_hasStructure`).

Which sections are absent is told by the titles that blocks carry as titles of pages, whatever the
order of the blocks and whatever else is among them (`absentSections`). If the children are listed,
there is one warning at most, and it names the sections that are absent (`warnings_hasStructure`).
-/

namespace NotionProject

namespace Project

variable {project : Project} {root : Identifier} {replies : List Reply}

/-! ## Missing sections -/

/-- The sections whose titles none of the blocks carries as the title of a page, in order. -/
def absentSections (blocks : List Block) : List Section :=
  [Section.datasets, .experiments, .comparisons].filter fun part =>
    ∀ block ∈ blocks, block.pageTitle? ≠ some part.title

theorem missingSections_eq (blocks : List Block) :
    missingSections blocks = (absentSections blocks).map Section.title := by
  rw [missingSections, List.filter_map, absentSections, Section.all]
  refine congrArg (List.map Section.title) (List.filter_congr fun part _ => ?_)
  rw [Bool.eq_iff_iff]
  simp

/-! ## Warnings of the check -/

/-- A page that can be read is no cause of a warning. -/
theorem warnings_pageExists_of_ok {id : Identifier} {server : Server}
    (h : ((project.pageExists id).run server).outcome = .ok true) :
    ((project.pageExists id).run server).warnings = [] := by
  rw [run_pageExists, Except.ok.injEq] at h
  rw [warnings_pageExists]
  cases ho : ((project.client.perform (Endpoint.page id)).run server).outcome with
  | ok page => rfl
  | error failure =>
    rw [ho] at h
    cases h

/-- The warning about the sections that are missing among the blocks, if there are any. -/
def sectionWarnings (root : Identifier) (blocks : List Block) : List String :=
  if (missingSections blocks).isEmpty then []
  else ["Project root " ++ root.text ++ " is missing section(s): " ++
    ", ".intercalate (missingSections blocks)]

/-- If the children can be listed, the one warning there may be is about missing sections. -/
theorem warnings_hasStructure {server middle left : Server} {first second : List Request}
    {listing : Listing Block}
    (hexists : ((project.pageExists root).run server).ComesTo (.ok true) first middle)
    (hlist : ((project.client.perform (Endpoint.children root none)).run middle).ComesTo
      (.ok listing) second left) :
    ((project.hasStructure root).run server).warnings =
      sectionWarnings root listing.results := by
  have hquiet : ((project.client.perform (Endpoint.children root none)).attempt.run
      middle).warnings = [] :=
    project.client.neverWarns_perform (Inquiry.children root none).read_exchange middle
  rw [hasStructure, Call.warnings_bind_of_ok hexists.outcome_eq,
    warnings_pageExists_of_ok hexists.outcome_eq, hexists.server_eq, if_pos rfl,
    Call.warnings_bind_of_ok (Call.comesTo_attempt hlist).outcome_eq, hquiet]
  unfold sectionWarnings
  dsimp only
  cases (missingSections listing.results).isEmpty <;> rfl

/-! ## The check -/

/-- The children of the page can be asked for, and the reply after the next one carries their first
part. -/
def Listed (client : Client) (root : Identifier) (replies : List Reply) (listing : Listing Block) :
    Prop :=
  (client.sent? (Endpoint.children root none)).isSome ∧
    (replies.tail.headD Server.exhausted).Carries (Listing.decode Block.decode) listing

/-- A page that is not seen has no structure, and its children are not asked for. -/
theorem comesTo_hasStructure_of_not_seen (hu : .unreachable ∉ replies)
    (h : ¬Seen project.client root replies) : ∃ left,
    ((project.hasStructure root).run (.scripted replies)).ComesTo (.ok false)
      (project.client.sent? (Endpoint.page root)).toList left := by
  obtain ⟨left, hrun⟩ := comesTo_pageExists_of_not_seen hu h
  exact ⟨left, comesTo_hasStructure_of_missing hrun⟩

/-- To ask for the children takes one request, if it can be put together, and has the listing for
its outcome just if they are listed. -/
theorem exists_comesTo_children (project : Project) (root : Identifier)
    (hu : .unreachable ∉ replies) : ∃ outcome left,
      ((project.client.perform (Endpoint.children root none)).run
        (.scripted replies.tail)).ComesTo outcome
          (project.client.sent? (Endpoint.children root none)).toList left ∧
      ∀ listing, outcome = .ok listing ↔ Listed project.client root replies listing := by
  obtain ⟨left, hrun⟩ := @Client.comesTo_inquiry project.client (.children root none) replies.tail
    fun hm => hu (List.mem_of_mem_tail hm)
  exact ⟨_, left, hrun, fun listing => Client.verdict_eq_ok_iff⟩

/-- Of a page that is seen the children are asked for once, and if they are listed, the answer and
the warning are about the sections that are missing. -/
theorem comesTo_hasStructure_of_listed (hu : .unreachable ∉ replies)
    (hseen : Seen project.client root replies) {listing : Listing Block}
    (hlisted : Listed project.client root replies listing) :
    (∃ left, ((project.hasStructure root).run (.scripted replies)).ComesTo
      (.ok (missingSections listing.results).isEmpty)
      ((project.client.sent? (Endpoint.page root)).toList ++
        (project.client.sent? (Endpoint.children root none)).toList) left) ∧
    ((project.hasStructure root).run (.scripted replies)).warnings =
      sectionWarnings root listing.results := by
  have hexists := comesTo_pageExists_of_seen hu hseen
  obtain ⟨outcome, left, hlist, houtcome⟩ := exists_comesTo_children project root hu
  obtain rfl := (houtcome listing).2 hlisted
  exact ⟨⟨left, comesTo_hasStructure hexists hlist⟩, warnings_hasStructure hexists hlist⟩

/-- If they are not listed, the answer is no. -/
theorem comesTo_hasStructure_of_not_listed (hu : .unreachable ∉ replies)
    (hseen : Seen project.client root replies)
    (h : ¬∃ listing, Listed project.client root replies listing) : ∃ left,
    ((project.hasStructure root).run (.scripted replies)).ComesTo (.ok false)
      ((project.client.sent? (Endpoint.page root)).toList ++
        (project.client.sent? (Endpoint.children root none)).toList) left := by
  have hexists := comesTo_pageExists_of_seen hu hseen
  obtain ⟨outcome, left, hlist, houtcome⟩ := exists_comesTo_children project root hu
  cases outcome with
  | ok listing => exact absurd ⟨listing, (houtcome listing).1 rfl⟩ h
  | error failure => exact ⟨left, comesTo_hasStructure_of_error hexists hlist⟩

/-- The check has an answer in every case, with the requests of the case. -/
theorem exists_comesTo_hasStructure (project : Project) (root : Identifier)
    (hu : .unreachable ∉ replies) : ∃ valid requests left,
      ((project.hasStructure root).run (.scripted replies)).ComesTo (.ok valid) requests left ∧
      (Seen project.client root replies → requests =
        (project.client.sent? (Endpoint.page root)).toList ++
          (project.client.sent? (Endpoint.children root none)).toList) ∧
      (¬Seen project.client root replies →
        requests = (project.client.sent? (Endpoint.page root)).toList) ∧
      (valid = true ↔ Seen project.client root replies ∧
        ∃ listing, Listed project.client root replies listing ∧
          missingSections listing.results = []) := by
  by_cases hseen : Seen project.client root replies
  · by_cases hlisted : ∃ listing, Listed project.client root replies listing
    · obtain ⟨listing, hlisted⟩ := hlisted
      obtain ⟨⟨left, hrun⟩, -⟩ := comesTo_hasStructure_of_listed hu hseen hlisted
      refine ⟨_, _, left, hrun, fun _ => rfl, fun h => absurd hseen h, ?_⟩
      rw [List.isEmpty_iff]
      refine ⟨fun hnil => ⟨hseen, listing, hlisted, hnil⟩, ?_⟩
      rintro ⟨-, other, hother, hnil⟩
      rwa [hlisted.2.unique hother.2]
    · obtain ⟨left, hrun⟩ := comesTo_hasStructure_of_not_listed hu hseen hlisted
      refine ⟨_, _, left, hrun, fun _ => rfl, fun h => absurd hseen h, iff_of_false (by simp) ?_⟩
      rintro ⟨-, listing, hlisting, -⟩
      exact hlisted ⟨listing, hlisting⟩
  · obtain ⟨left, hrun⟩ := comesTo_hasStructure_of_not_seen hu hseen
    exact ⟨_, _, left, hrun, fun h => absurd h hseen, fun _ => rfl,
      iff_of_false (by simp) fun h => hseen h.1⟩

/-- What is asked to check the sections of a page, and what comes of it. The page is asked for
first, and if it is seen, the first part of its children, with no cursor; nothing else is. Both
requests can be put together below every base that leaves room for them. The answer is yes if and
only if the page is seen, and its children are listed, and each section has its title carried by one
of them; and if it is no although they are listed, the only warning names the sections that are
absent, in order. -/
structure ChecksSections (base : Url) (client : Client) (root : Identifier) (replies : List Reply)
    (run : Run Bool) : Prop where
  page_isFor : ∀ request ∈ client.sent? (Endpoint.page root),
    request.IsFor base .get ("pages/" ++ root.hyphenated) none
  children_isFor : ∀ request ∈ client.sent? (Endpoint.children root none),
    request.IsFor base .get ("blocks/" ++ root.hyphenated ++ "/children") none ∧
      (base.query = none → request.url.query = some "page_size=100".toList)
  sent_of_fits : Client.Fits base 66 → (client.sent? (Endpoint.page root)).isSome ∧
    (client.sent? (Endpoint.children root none)).isSome
  requests_of_seen : Seen client root replies → run.requests =
    (client.sent? (Endpoint.page root)).toList ++
      (client.sent? (Endpoint.children root none)).toList
  requests_of_not_seen : ¬Seen client root replies →
    run.requests = (client.sent? (Endpoint.page root)).toList
  outcome_ok : ∃ valid, run.outcome = .ok valid
  true_iff : run.outcome = .ok true ↔ Seen client root replies ∧
    ∃ listing, Listed client root replies listing ∧
      ∀ part : Section, ∃ block ∈ listing.results, block.pageTitle? = some part.title
  warns : ∀ listing, Seen client root replies → Listed client root replies listing →
    run.outcome = .ok false →
      run.warnings = ["Project root " ++ root.text ++ " is missing section(s): " ++
        ", ".intercalate ((absentSections listing.results).map Section.title)]

section Configured

variable {config configured : Config} {text : String}
  (hconfig : config.withBaseUrl text = .ok configured)
  (hproject : ofConfig configured = .ok project)

include hconfig hproject

theorem isSome_sent?_children (root : Identifier) (hfits : Client.Fits configured.baseUrl 66) :
    (project.client.sent? (Endpoint.children root none)).isSome := by
  have hlength : (Inquiry.children root none).endpoint.toList.length +
      (Inquiry.children root none).exchange.query.room = 66 := by
    have hroom : (Inquiry.children root none).exchange.query.room = 14 := rfl
    simp [hroom, Inquiry.endpoint, String.toList_append, root.length_hyphenated]
  exact @Client.isSome_sent?_of_room _ _ (base_of_ofConfig hproject)
    (Config.isNormal_baseUrl hconfig) (.children root none) (hlength ▸ hfits)

/-- Against every list of replies the sections of a page are checked with two requests at most, and
the check never fails. -/
theorem hasStructure_checks (root : Identifier) (hu : .unreachable ∉ replies) :
    ChecksSections configured.baseUrl project.client root replies
      ((project.hasStructure root).run (.scripted replies)) := by
  have hquery : ∀ request ∈ project.client.sent? (Endpoint.children root none),
      configured.baseUrl.query = none → request.url.query = some "page_size=100".toList :=
    fun request hs hnone => Client.query_of_sent? (base_of_ofConfig hproject)
      (Config.isNormal_baseUrl hconfig) hnone (.children root none) rfl hs
  obtain ⟨valid, requests, left, hrun, hrequests, hrequests', hvalid⟩ :=
    exists_comesTo_hasStructure project root hu
  refine
    { page_isFor := fun request hs => isFor_of_sent? hconfig hproject (.page root) hs
      children_isFor := fun request hs =>
        ⟨isFor_of_sent? hconfig hproject (.children root none) hs, hquery request hs⟩
      sent_of_fits := fun hfits =>
        ⟨isSome_sent?_page hconfig hproject root (hfits.mono (by decide)),
          isSome_sent?_children hconfig hproject root hfits⟩
      requests_of_seen := fun hseen => hrun.requests_eq.trans (hrequests hseen)
      requests_of_not_seen := fun hseen => hrun.requests_eq.trans (hrequests' hseen)
      outcome_ok := ⟨valid, hrun.outcome_eq⟩
      true_iff := ?_
      warns := fun listing hseen hlisted hfalse => ?_ }
  · rw [hrun.outcome_eq, Except.ok.injEq, hvalid]
    simp only [missingSections_eq_nil_iff]
  · obtain ⟨⟨_, hanswer⟩, hwarnings⟩ := comesTo_hasStructure_of_listed hu hseen hlisted
    have hmissing : (missingSections listing.results).isEmpty = false :=
      Except.ok.inj (hanswer.outcome_eq.symm.trans hfalse)
    rw [hwarnings, sectionWarnings, hmissing, missingSections_eq]
    rfl

end Configured

/-- A page, a part of its children with the title of one section, and what is not asked for. -/
def samplePartial : List Reply :=
  [.answer 200 samplePageText,
    .answer 200 ("\x7b\"results\":[" ++
      Walk.blockText "10000000000040008000000000000000" "child_page" "datasets" ++ "," ++
      Walk.blockText "20000000000040008000000000000000" "child_page" "Experiments" ++
      "],\"next_cursor\":\"c\",\"has_more\":true\x7d"),
    .answer 200 "\x7b\"results\":[]\x7d"]

/-- A title in lower case does not count, and the next part is not asked for. -/
theorem hasStructure_checks_sample : ∃ configured,
    Client.sampleConfig.withBaseUrl "http://h/v1" = .ok configured ∧
      ofConfig configured = .ok ⟨.ofRandom 0, .sample "http://h/v1"⟩ ∧
      .unreachable ∉ samplePartial ∧
      let run := (hasStructure ⟨.ofRandom 0, .sample "http://h/v1"⟩ (.ofRandom 0)).run
        (.scripted samplePartial)
      run.requests.length = 2 ∧ run.outcome = .ok false ∧
        run.warnings = ["Project root 00000000000040008000000000000000 " ++
          "is missing section(s): Datasets, Comparisons"] := by
  have hu : .unreachable ∉ samplePartial := by simp [samplePartial]
  obtain ⟨configured, hconfig, hproject, hurl⟩ := exists_configured_sample
  refine ⟨configured, hconfig, hproject, hu, ?_⟩
  intro run
  have hchecks := hasStructure_checks hconfig hproject (.ofRandom 0) hu
  have hfits : Client.Fits configured.baseUrl 66 := hurl ▸
    ⟨⟨.domain ['h'], by decide +kernel⟩, by decide +kernel, by decide +kernel⟩
  obtain ⟨hpage, hchildren⟩ := hchecks.sent_of_fits hfits
  have hseen : Seen (Client.sample "http://h/v1") (.ofRandom 0) samplePartial :=
    ⟨hpage, exists_carries_samplePage⟩
  have hlisted : Listed (Client.sample "http://h/v1") (.ofRandom 0) samplePartial
      ⟨"", [.ofPage (.ofRandom 1) "datasets", .ofPage (.ofRandom 2) "Experiments"], some "c",
        true⟩ :=
    ⟨hchildren, Walk.carries_of_parts <| by
      rw [Decoder.ofText, Source.ofText]
      repeat rw [String.toList_append]
      rw [Walk.toList_blockText, Walk.toList_blockText]
      decide +kernel⟩
  have hlength : run.requests.length = 2 := by
    obtain ⟨page, hpage⟩ := Option.isSome_iff_exists.1 hpage
    obtain ⟨children, hchildren⟩ := Option.isSome_iff_exists.1 hchildren
    rw [show run.requests = _ from hchecks.requests_of_seen hseen, hpage, hchildren]
    rfl
  have hfalse : run.outcome = .ok false := by
    obtain ⟨valid, hvalid⟩ := hchecks.outcome_ok
    cases valid with
    | false => exact hvalid
    | true =>
      obtain ⟨-, listing, hlisting, hall⟩ := hchecks.true_iff.1 hvalid
      obtain rfl := hlisted.2.unique hlisting.2
      exact absurd (hall .datasets) (by decide +kernel)
  exact ⟨hlength, hfalse,
    (hchecks.warns _ hseen hlisted hfalse).trans (by decide +kernel)⟩

/-- At a host that no request can hold nothing is asked. -/
theorem hasStructure_checks_unsendable : ∃ configured,
    Client.sampleConfig.withBaseUrl "http://a\x7db/v1" = .ok configured ∧
      ofConfig configured = .ok unsendable ∧
      ((unsendable.hasStructure (.ofRandom 0)).run (.scripted samplePartial)).requests = [] := by
  obtain ⟨configured, hconfig, hproject⟩ := exists_configured_unsendable
  exact ⟨configured, hconfig, hproject, List.length_eq_zero_iff.1 (by decide +kernel)⟩

end Project

end NotionProject
