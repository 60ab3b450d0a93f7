import NotionProject.Proofs.Lowercase
import NotionProject.Proofs.Resolution

/-!
# Titles up to case

A search for a database lowercases whole titles. It was meant to ignore case, and character by
character it does but for one letter: `search_of_same_letters` tells which databases match a title
that has the same letters, and `misses_final_sigma` has one that does not.
-/

namespace NotionProject

namespace Project

variable {project : Project} {parent : Identifier} {title : String} {replies answers : List Reply}
  {parts : List (Listing Block)} {databases : List Database}

theorem sameTitle_database_iff {candidate wanted : String}
    (h : SameLetters candidate.toList wanted.toList) :
    sameTitle .database candidate wanted = true ↔ SigmasMeet [] candidate.toList wanted.toList :=
  beq_iff_eq.trans (lowercase_eq_iff h)

/-- The search for the only database looks at the same matches as the search for every one. -/
theorem comesTo_findOnly_database (h : project.DeliversChildren parent replies parts)
    (hd : Retrieves project.client (databaseIds (parts.flatMap Listing.results)) answers databases)
    (later : List Reply) :
    ((project.findOnly .database parent title).run
      (.scripted (replies ++ (answers ++ later)))).ComesTo
      (onlyMatch .database title
        (databasesNamed title (databaseIds (parts.flatMap Listing.results)) databases))
      (Walk.requestsFor project.client (Endpoint.children parent) none parts ++
        lookups project.client (databaseIds (parts.flatMap Listing.results))) (.scripted later) :=
  (comesTo_matchingChildren h (comesTo_matchesAmong_database title later hd)).andFinally
    (Call.comesTo_ofExcept _ _)

/-- Both searches for a database keep the databases whose titles match. A title that has the letters
of the one asked for, whatever their case, is a match exactly if no capital sigma at the end of a
word of it stands against a small one, or the other way round. -/
theorem search_of_same_letters (project : Project) (parent : Identifier) (title : String)
    {replies answers : List Reply} {parts : List (Listing Block)} {databases : List Database}
    (h : project.DeliversChildren parent replies parts)
    (hd : Retrieves project.client (databaseIds (parts.flatMap Listing.results)) answers databases)
    (later : List Reply) :
    let server := Server.scripted (replies ++ (answers ++ later))
    let asked := (databaseIds (parts.flatMap Listing.results)).zip databases
    let found := (asked.filter fun pair =>
      sameTitle .database pair.2.visibleTitle title).map Prod.fst
    ((project.findAll .database parent title).run server).outcome =
        everyMatch .database title found ∧
      ((project.findOnly .database parent title).run server).outcome =
        onlyMatch .database title found ∧
      ∀ pair ∈ asked, SameLetters pair.2.visibleTitle.toList title.toList →
        (sameTitle .database pair.2.visibleTitle title = true ↔
          SigmasMeet [] pair.2.visibleTitle.toList title.toList) := by
  intro server asked found
  have hall := comesTo_findAll h (comesTo_matchesAmong_database title later hd)
  refine ⟨hall.outcome_eq.trans (everyMatch_eq _ _ _).symm,
    (comesTo_findOnly_database h hd later).outcome_eq, ?_⟩
  exact fun pair _ hletters => sameTitle_database_iff hletters

/-- The answer with a database of one title. -/
def titledAnswer (title : String) : Reply :=
  .answer 200 ("\x7b\"id\":\"20000000000040008000000000000000\",\"title\":[\x7b\"plain_text\":\"" ++
    title ++ "\"\x7d]\x7d")

theorem databaseIds_sampleParts :
    databaseIds (Walk.sampleParts.flatMap Listing.results) = [.ofRandom 2] := by
  decide +kernel

theorem retrieves_titledAnswer {title : String} {database : Database}
    (h : (titledAnswer title).Carries Database.decode database) :
    Retrieves (Client.sample "http://a/v1")
      (databaseIds (Walk.sampleParts.flatMap Listing.results)) [titledAnswer title] [database] := by
  rw [databaseIds_sampleParts]
  exact ⟨.cons h .nil, rfl, by decide +kernel⟩

/-- A capital sigma at the start of a word is found in lower case. -/
theorem finds_initial_sigma :
    let project : Project := ⟨.ofRandom 0, .sample "http://a/v1"⟩
    let server := Server.scripted (Walk.sampleReplies ++ ([titledAnswer "ΣΟΦΙΑ"] ++ []))
    project.DeliversChildren (.ofRandom 0) Walk.sampleReplies Walk.sampleParts ∧
      (∃ database, database.visibleTitle = "ΣΟΦΙΑ" ∧
        Retrieves project.client (databaseIds (Walk.sampleParts.flatMap Listing.results))
          [titledAnswer "ΣΟΦΙΑ"] [database]) ∧
      SameLetters "ΣΟΦΙΑ".toList "σοφια".toList ∧
      ((project.findAll .database (.ofRandom 0) "σοφια").run server).outcome =
        .ok [.ofRandom 2] ∧
      ((project.findOnly .database (.ofRandom 0) "σοφια").run server).outcome =
        .ok (.ofRandom 2) := by
  dsimp only
  obtain ⟨database, hcarries, htitle⟩ : ∃ database,
      (titledAnswer "ΣΟΦΙΑ").Carries Database.decode database ∧ database.visibleTitle = "ΣΟΦΙΑ" :=
    Reply.exists_carries (by decide +kernel)
  have hretrieves := retrieves_titledAnswer hcarries
  have hletters : SameLetters "ΣΟΦΙΑ".toList "σοφια".toList := by
    unfold SameLetters
    decide +kernel
  have hmeet : SigmasMeet [] "ΣΟΦΙΑ".toList "σοφια".toList :=
    (lowercase_eq_iff hletters).1 (by decide +kernel)
  obtain ⟨hall, honly, hmatch⟩ := search_of_same_letters
    ⟨.ofRandom 0, .sample "http://a/v1"⟩ (.ofRandom 0) "σοφια"
    Walk.delivers_sample hretrieves []
  rw [databaseIds_sampleParts, List.zip_cons_cons, List.zip_nil_left] at hall honly hmatch
  have hsame : sameTitle .database database.visibleTitle "σοφια" = true := by
    refine (hmatch _ (List.mem_singleton_self _) ?_).2 ?_
    · rwa [htitle]
    · rwa [htitle]
  simp only [List.filter_cons, hsame, if_true] at hall honly
  exact ⟨Walk.delivers_sample, ⟨database, htitle, hretrieves⟩, hletters, hall, honly⟩

/-- A capital sigma at the end of a word is not found in lower case, although the titles have the
same letters and the database was answered. -/
theorem misses_final_sigma :
    let project : Project := ⟨.ofRandom 0, .sample "http://a/v1"⟩
    let server := Server.scripted (Walk.sampleReplies ++ ([titledAnswer "ΟΔΟΣ"] ++ []))
    project.DeliversChildren (.ofRandom 0) Walk.sampleReplies Walk.sampleParts ∧
      (∃ database, database.visibleTitle = "ΟΔΟΣ" ∧
        Retrieves project.client (databaseIds (Walk.sampleParts.flatMap Listing.results))
          [titledAnswer "ΟΔΟΣ"] [database]) ∧
      SameLetters "ΟΔΟΣ".toList "οδοσ".toList ∧
      ((project.findAll .database (.ofRandom 0) "οδοσ").run server).outcome =
        .error (.notFound .database "οδοσ") ∧
      ((project.findOnly .database (.ofRandom 0) "οδοσ").run server).outcome =
        .error (.notFound .database "οδοσ") := by
  dsimp only
  obtain ⟨database, hcarries, htitle⟩ : ∃ database,
      (titledAnswer "ΟΔΟΣ").Carries Database.decode database ∧ database.visibleTitle = "ΟΔΟΣ" :=
    Reply.exists_carries (by decide +kernel)
  have hretrieves := retrieves_titledAnswer hcarries
  have hletters : SameLetters "ΟΔΟΣ".toList "οδοσ".toList := by
    unfold SameLetters
    decide +kernel
  have hdiffers : (lowercase "ΟΔΟΣ" == lowercase "οδοσ") = false := by decide +kernel
  have hnone : databasesNamed "οδοσ" (databaseIds (Walk.sampleParts.flatMap Listing.results))
      [database] = [] := by
    rw [databaseIds_sampleParts, databasesNamed_cons, sameTitle, htitle, hdiffers]
    rfl
  have hall := @comesTo_findAll ⟨.ofRandom 0, .sample "http://a/v1"⟩ "οδοσ" _ _ _ _
    Walk.delivers_sample _ _ _ _ (comesTo_matchesAmong_database _ [] hretrieves)
  have honly := @comesTo_findOnly_database ⟨.ofRandom 0, .sample "http://a/v1"⟩ _ "οδοσ" _ _ _ _
    Walk.delivers_sample hretrieves []
  rw [hnone] at hall honly
  exact ⟨Walk.delivers_sample, ⟨database, htitle, hretrieves⟩, hletters, hall.outcome_eq,
    honly.outcome_eq⟩

end Project

end NotionProject
