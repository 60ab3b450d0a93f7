import NotionProject.Proofs.Asking
import NotionProject.Proofs.FailFast

/-!
# What is created

A page is created below a parent only after the parent was read. Two turns are all that this can
take: the first one asks for the parent, and the second one, which creates the page, is made just if
the first reply carries a page (`comesTo_createPage_of_seen`, `comesTo_createPage_of_not_seen`).
What comes of the second turn is the outcome.

A database, and a record, is created in one turn, without such a question.
-/

namespace NotionProject

/-! ## Bodies -/

/-- The body is that of a page below the parent, and a title of one segment is its only
property. -/
structure Json.IsTitledPage (parent : Identifier) (title : String) (body : Json) : Prop where
  parent_eq : body.member? "parent" =
    some (.object [("type", .string "page_id"), ("page_id", .string parent.text)])
  properties_eq : body.member? "properties" = some (.object [("title", .object
    [("type", .string "title"), ("title", .array [.object
      [("type", .string "text"), ("text", .object [("content", .string title)])]])])])

theorem NewPage.isTitledPage_toJson (parent : Identifier) (title : String) :
    (toJson ⟨.page parent, [("title", .title title)]⟩).IsTitledPage parent title :=
  ⟨rfl, rfl⟩

/-- The failure of a reply is one of an exchange. -/
theorem Reply.isOfExchange_of_verdict {α : Type} {decode : Decoder α} {request : Request}
    {reply : Reply} {failure : Failure} (h : reply.verdict decode request = .error failure) :
    failure.IsOfExchange := by
  unfold verdict at h
  split at h
  · unfold Answer.verdict at h
    split at h
    · split at h <;> cases h
      trivial
    · split at h <;> cases h <;> trivial
  · cases h
    trivial
  · cases h
    trivial

namespace Project

/-! ## Turns -/

/-- The exchange that creates a page below a parent. -/
abbrev creation (parent : Identifier) (title : String) : Exchange Page :=
  Endpoint.createPage ⟨.page parent, [("title", .title title)]⟩

/-- The parent can be asked for, and the first reply carries a page. -/
def Seen (client : Client) (parent : Identifier) (replies : List Reply) : Prop :=
  (client.sent? (Endpoint.page parent)).isSome ∧
    ∃ page, (replies.headD Server.exhausted).Carries Page.decode page

variable {project : Project} {parent : Identifier} {title : String} {replies : List Reply}

/-- A page that is seen exists. -/
theorem comesTo_pageExists_of_seen (hu : .unreachable ∉ replies)
    (h : Seen project.client parent replies) :
    ((project.pageExists parent).run (.scripted replies)).ComesTo (.ok true)
      (project.client.sent? (Endpoint.page parent)).toList (.scripted replies.tail) := by
  obtain ⟨hsent, page, hpage⟩ := h
  obtain ⟨check, hcheck⟩ := Option.isSome_iff_exists.1 hsent
  have hrun := Client.comesTo_perform rfl hcheck (Server.headD_ne_unreachable hu)
  rw [Reply.verdict_eq_ok_iff.2 hpage] at hrun
  exact hcheck ▸ comesTo_pageExists_of_ok hrun

/-- A page that is not seen does not. -/
theorem comesTo_pageExists_of_not_seen (hu : .unreachable ∉ replies)
    (h : ¬Seen project.client parent replies) : ∃ left,
    ((project.pageExists parent).run (.scripted replies)).ComesTo (.ok false)
      (project.client.sent? (Endpoint.page parent)).toList left := by
  cases hcheck : project.client.sent? (Endpoint.page parent) with
  | none =>
    have hrun := Client.comesTo_perform_unsent hcheck (.scripted replies)
    exact ⟨_, comesTo_pageExists_of_error hrun⟩
  | some check =>
    have hrun := Client.comesTo_perform rfl hcheck (Server.headD_ne_unreachable hu)
    cases hv : (replies.headD Server.exhausted).verdict Page.decode check with
    | ok page => exact absurd ⟨by simp [hcheck], page, Reply.verdict_eq_ok_iff.1 hv⟩ h
    | error failure =>
      rw [hv] at hrun
      exact ⟨_, comesTo_pageExists_of_error hrun⟩

/-- If the parent is seen, the page is created with what the next reply comes to. -/
theorem comesTo_createPage_of_seen (hu : .unreachable ∉ replies) {check write : Request}
    (hcheck : project.client.sent? (Endpoint.page parent) = some check)
    (hwrite : project.client.sent? (creation parent title) = some write) {page : Page}
    (hpage : (replies.headD Server.exhausted).Carries Page.decode page) :
    ((project.createPage parent title).run (.scripted replies)).ComesTo
      (((replies.tail.headD Server.exhausted).verdict Page.decode write).map Page.id)
      [check, write] (.scripted replies.tail.tail) := by
  have hfirst := comesTo_pageExists_of_seen hu ⟨by rw [hcheck]; rfl, page, hpage⟩
  rw [hcheck] at hfirst
  have hsecond := Client.comesTo_perform rfl hwrite
    (Server.headD_ne_unreachable fun hm => hu (List.mem_of_mem_tail hm))
  exact hfirst.bind (hsecond.logResult .info _ Page.id)

/-- If it is not, nothing more is asked. -/
theorem comesTo_createPage_of_not_seen (hu : .unreachable ∉ replies)
    (h : ¬Seen project.client parent replies) : ∃ left,
    ((project.createPage parent title).run (.scripted replies)).ComesTo
      (.error (.parentNotFound parent.text))
      (project.client.sent? (Endpoint.page parent)).toList left := by
  obtain ⟨left, hrun⟩ := comesTo_pageExists_of_not_seen hu h
  exact ⟨left, hrun.andFinally (Call.comesTo_fail _ _)⟩

/-- A database is created in one turn. -/
theorem comesTo_createDatabase {schema : Schema} {outcome : Except Failure Database}
    {requests : List Request} {server left : Server}
    (h : ((project.client.perform (Endpoint.createDatabase
      ⟨.page parent, [RichText.ofText title], schema⟩)).run server).ComesTo outcome requests left) :
    ((project.createDatabase parent title schema).run server).ComesTo (outcome.map Database.id)
      requests left :=
  h.logResult .info _ Database.id

/-- A record is created in one turn. -/
theorem comesTo_createRecord {database : Identifier} {properties : Properties}
    {other : Option Parent} {outcome : Except Failure Page} {requests : List Request}
    {server left : Server}
    (h : ((project.client.perform (Endpoint.createPage
      ⟨other.getD (.database database), properties.writable⟩)).run server).ComesTo outcome requests
        left) :
    ((project.createRecord database properties other).run server).ComesTo (outcome.map id)
      requests left :=
  ((Call.comesTo_logAll _ _ server).after (Call.comesTo_pure properties.writable server)).after
    (h.logResult .info _ id)

/-! ## Creating once -/

/-- What is asked to create a page below a parent, and what comes of it. The parent is asked for
first. If it is seen, one more request is made, which creates the page, and the outcome is what the
reply to that one comes to; else none is made, and the parent is reported as missing. -/
structure CreatesBelow (base : Url) (client : Client) (parent : Identifier) (title : String)
    (replies : List Reply) (run : Run Identifier) : Prop where
  checks : ∀ check ∈ client.sent? (Endpoint.page parent),
    check.IsFor base .get ("pages/" ++ parent.hyphenated) none
  of_seen : Seen client parent replies → ∃ check write body,
    client.sent? (Endpoint.page parent) = some check ∧ run.requests = [check, write] ∧
      write.IsFor base .post "pages" (some body) ∧ body.IsTitledPage parent title ∧
      run.outcome =
        ((replies.tail.headD Server.exhausted).verdict Page.decode write).map Page.id
  of_not_seen : ¬Seen client parent replies →
    run.requests = (client.sent? (Endpoint.page parent)).toList
  missing_iff : run.outcome = .error (.parentNotFound parent.text) ↔ ¬Seen client parent replies
  ok_iff : ∀ id, run.outcome = .ok id ↔ Seen client parent replies ∧
    ∃ page, (replies.tail.headD Server.exhausted).Carries Page.decode page ∧ page.id = id

/-- The run makes the request of the inquiry, if it can be put together, and no other. -/
structure AsksOnly {α : Type} (base : Url) (client : Client) (inquiry : Inquiry) (run : Run α) :
    Prop where
  requests_eq : run.requests = (client.sent? inquiry.exchange).toList
  isFor : ∀ request ∈ run.requests,
    request.IsFor base inquiry.exchange.method inquiry.endpoint inquiry.exchange.body

section Configured

variable {config configured : Config} {text : String}
  (hconfig : config.withBaseUrl text = .ok configured)
  (hproject : ofConfig configured = .ok project)

include hconfig hproject

/-- A page can be created if its parent can be asked for. -/
theorem exists_sent?_creation {parent : Identifier} (title : String)
    (hs : (project.client.sent? (Endpoint.page parent)).isSome) :
    ∃ write, project.client.sent? (creation parent title) = some write := by
  have hlt : "pages".toList.length < (Inquiry.page parent).endpoint.toList.length := by
    simp [Inquiry.endpoint, String.toList_append]
  exact Option.isSome_iff_exists.1 (@Client.isSome_sent?_of_length_lt _ _
    (base_of_ofConfig hproject) (Config.isNormal_baseUrl hconfig) (.page parent)
    (.createPage ⟨.page parent, [("title", .title title)]⟩) rfl rfl hlt hs)

theorem createsBelow_createPage (parent : Identifier) (title : String)
    (hu : .unreachable ∉ replies) :
    CreatesBelow configured.baseUrl project.client parent title replies
      ((project.createPage parent title).run (.scripted replies)) := by
  have hchecks : ∀ check ∈ project.client.sent? (Endpoint.page parent), check.IsFor
      configured.baseUrl .get ("pages/" ++ parent.hyphenated) none := fun _ hs =>
    isFor_of_sent? hconfig hproject (.page parent) hs
  by_cases hseen : Seen project.client parent replies
  · obtain ⟨hsent, page, hpage⟩ := hseen
    obtain ⟨check, hcheck⟩ := Option.isSome_iff_exists.1 hsent
    obtain ⟨write, hwrite⟩ := exists_sent?_creation hconfig hproject title hsent
    have hrun := comesTo_createPage_of_seen hu hcheck hwrite hpage
    refine
      { checks := hchecks
        of_seen := fun _ => ⟨check, write, _, hcheck, hrun.requests_eq,
          isFor_of_sent? hconfig hproject (.createPage _) hwrite,
          NewPage.isTitledPage_toJson parent title, hrun.outcome_eq⟩
        of_not_seen := fun h => absurd ⟨hsent, page, hpage⟩ h
        missing_iff := iff_of_false (fun ho => ?_) (not_not_intro ⟨hsent, page, hpage⟩)
        ok_iff := fun id => ?_ }
    · -- a failure to create is one of the exchange, and not that the parent is missing
      rw [hrun.outcome_eq] at ho
      cases hv : (replies.tail.headD Server.exhausted).verdict Page.decode write with
      | ok page =>
        rw [hv] at ho
        cases ho
      | error failure =>
        rw [hv] at ho
        obtain rfl := Except.error.inj ho
        exact Reply.isOfExchange_of_verdict hv
    · rw [hrun.outcome_eq, map_eq_ok_iff]
      simp only [Reply.verdict_eq_ok_iff]
      exact ⟨fun h => ⟨⟨hsent, page, hpage⟩, h⟩, fun h => h.2⟩
  · obtain ⟨left, hrun⟩ := comesTo_createPage_of_not_seen hu hseen
    exact
      { checks := hchecks
        of_seen := fun h => absurd h hseen
        of_not_seen := fun _ => hrun.requests_eq
        missing_iff := iff_of_true hrun.outcome_eq hseen
        ok_iff := fun id => iff_of_false (by simp [hrun.outcome_eq]) fun h => hseen h.1 }

theorem asksOnly_of_requests_eq {α : Type} {run : Run α} (inquiry : Inquiry)
    (h : run.requests = (project.client.sent? inquiry.exchange).toList) :
    AsksOnly configured.baseUrl project.client inquiry run where
  requests_eq := h
  isFor request hm := by
    rw [h, Option.mem_toList] at hm
    exact isFor_of_sent? hconfig hproject inquiry hm

theorem asksOnly_createDatabase (parent : Identifier) (title : String) (schema : Schema)
    (hu : .unreachable ∉ replies) :
    AsksOnly configured.baseUrl project.client
      (.createDatabase ⟨.page parent, [RichText.ofText title], schema⟩)
      ((project.createDatabase parent title schema).run (.scripted replies)) :=
  asksOnly_of_requests_eq hconfig hproject _
    ((comesTo_createDatabase ⟨rfl, rfl, rfl⟩).requests_eq.trans (Client.requests_perform rfl hu))

theorem asksOnly_createRecord (database : Identifier) (properties : Properties)
    (other : Option Parent) (hu : .unreachable ∉ replies) :
    AsksOnly configured.baseUrl project.client
      (.createPage ⟨other.getD (.database database), properties.writable⟩)
      ((project.createRecord database properties other).run (.scripted replies)) :=
  asksOnly_of_requests_eq hconfig hproject _
    ((comesTo_createRecord ⟨rfl, rfl, rfl⟩).requests_eq.trans (Client.requests_perform rfl hu))

/-- Against every list of replies, a page is created once and only below a parent that was just
seen, and a database or a record is created with one request and no other. -/
theorem creates_once (hu : .unreachable ∉ replies) :
    (∀ parent title, CreatesBelow configured.baseUrl project.client parent title replies
      ((project.createPage parent title).run (.scripted replies))) ∧
    (∀ parent title schema, AsksOnly configured.baseUrl project.client
      (.createDatabase ⟨.page parent, [RichText.ofText title], schema⟩)
      ((project.createDatabase parent title schema).run (.scripted replies))) ∧
    ∀ database properties other, AsksOnly configured.baseUrl project.client
      (.createPage ⟨other.getD (.database database), properties.writable⟩)
      ((project.createRecord database properties other).run (.scripted replies)) :=
  ⟨fun parent title => createsBelow_createPage hconfig hproject parent title hu,
    fun parent title schema => asksOnly_createDatabase hconfig hproject parent title schema hu,
    fun database properties other =>
      asksOnly_createRecord hconfig hproject database properties other hu⟩

end Configured

/-- A parent, and then the page that was created. -/
def sampleCreation : List Reply :=
  [.answer 200 "\x7b\"id\":\"10000000000040008000000000000000\"\x7d",
    .answer 200 "\x7b\"id\":\"20000000000040008000000000000000\"\x7d"]

theorem creates_once_sample : ∃ configured,
    Client.sampleConfig.withBaseUrl "http://h/v1" = .ok configured ∧
      ofConfig configured = .ok ⟨.ofRandom 0, .sample "http://h/v1"⟩ ∧
      .unreachable ∉ sampleCreation ∧
      let run := (createPage ⟨.ofRandom 0, .sample "http://h/v1"⟩ (.ofRandom 1) "A").run
        (.scripted sampleCreation)
      run.requests.length = 2 ∧
        ∃ id, run.outcome = .ok id ∧ id.text = "20000000000040008000000000000000" := by
  have hu : .unreachable ∉ sampleCreation := by simp [sampleCreation]
  obtain ⟨configured, hconfig, hproject, -⟩ := exists_configured_sample
  refine ⟨configured, hconfig, hproject, hu, ?_⟩
  intro run
  obtain ⟨parent, hparent, -⟩ : ∃ page, (sampleCreation.headD Server.exhausted).Carries
      Page.decode page ∧ page.id.text = "10000000000040008000000000000000" :=
    Reply.exists_carries (by decide +kernel)
  obtain ⟨page, hpage, hid⟩ : ∃ page, (sampleCreation.tail.headD Server.exhausted).Carries
      Page.decode page ∧ page.id.text = "20000000000040008000000000000000" :=
    Reply.exists_carries (by decide +kernel)
  have hseen : Seen (Client.sample "http://h/v1") (.ofRandom 1) sampleCreation :=
    ⟨by decide +kernel, parent, hparent⟩
  obtain ⟨hcreates, -, -⟩ := creates_once hconfig hproject hu
  have hbelow := hcreates (.ofRandom 1) "A"
  obtain ⟨check, write, -, -, hrequests, -⟩ := hbelow.of_seen hseen
  refine ⟨?_, page.id, (hbelow.ok_iff page.id).2 ⟨hseen, page, hpage, rfl⟩, hid⟩
  rw [show run.requests = _ from hrequests]
  rfl

/-- At a host that no request can hold nothing is asked and nothing is created. -/
theorem creates_unsendable : ∃ configured,
    Client.sampleConfig.withBaseUrl "http://a\x7db/v1" = .ok configured ∧
      ofConfig configured = .ok unsendable ∧
      ((unsendable.createPage (.ofRandom 1) "A").run (.scripted sampleCreation)).requests = [] ∧
      ((unsendable.createDatabase (.ofRandom 1) "A" .empty).run
        (.scripted sampleCreation)).requests = [] := by
  obtain ⟨configured, hconfig, hproject⟩ := exists_configured_unsendable
  exact ⟨configured, hconfig, hproject, List.length_eq_zero_iff.1 (by decide +kernel),
    List.length_eq_zero_iff.1 (by decide +kernel)⟩

end Project

end NotionProject
