import PatternCheck.Proofs.Http.Assets
import PatternCheck.Proofs.Service.Sharing

/-
The directory of assets, as it is seen from outside. Nothing but its files
can be had by a request that is of no endpoint, and every one of them can be
had by its path, however that is written (`assets_served`).

The layers in front of the directory add headers to its answers and nothing
else (`Site.answer_asset`), so all of this is about what the path of a
request leads to.
-/

namespace PatternCheck.Service

open Http (Asset FoundAt Target WrittenPath readPath?)

variable {s : Site} {r : Http.Request} {fs : Files}

/-- What a request for an asset is, to a service that has some: it asks for
it by its method, it is not for an endpoint, and it is not too long. -/
structure AsksFor (s : Site) (fs : Files) (r : Http.Request) : Prop where
  directory : s.config.staticDir.isSome = true
  files : s.assets = some fs
  method : r.method = "GET"
  apart : r.target.path ∉ healthPath :: checkPaths
  declared : r.declaresTooMuch s.config.maxBodyBytes = false

/-- The answer of the directory goes out with headers added. -/
theorem Site.answer_asset (asks : AsksFor s fs r) :
    (s.answer r).1 = ((Asset.ofTarget (some fs) r.target).answer r).adding
      (if s.config.cors then Http.CrossOrigin.leave else []) := by
  obtain ⟨health, checks⟩ := not_or.1 (mt List.mem_cons.2 asks.apart)
  have route := Endpoint.ofPath?_eq_none checks health
  have behind :
      s.dispatch r = quiet ((Asset.ofTarget (some fs) r.target).answer r) := by
    rw [dispatch, route]
    dsimp only
    rw [otherwise, if_pos asks.directory, asks.files, Http.assetAnswer,
      if_pos (by rw [asks.method]; rfl)]
  have plain :
      ¬ ((s.passage r).cors = true ∧ (s.passage r).method = "OPTIONS") := by
    rintro ⟨-, question⟩
    exact absurd (asks.method.symm.trans question) (by decide)
  have unlimited : (s.passage r).limited (s.dispatch r) = s.dispatch r := by
    rw [Passage.limited, if_neg]
    exact Bool.eq_false_iff.1 asks.declared
  have uncounted (response : Http.Response) :
      (s.passage r).completed response = response := by
    unfold Passage.completed passage
    rw [route]
    rfl
  rw [s.answer_eq_through, Passage.through, uncounted,
    Passage.shared_of_not_question _ _ plain, unlimited, behind]
  have method : (s.passage r).method ≠ "HEAD" := by
    intro head
    exact absurd (asks.method.symm.trans head) (by decide)
  exact if_neg method

/-- The directory of assets gives away its files and nothing else. Where a
request without conditions succeeds, it gets a file in the place that its
path names once escapes are read; a path that leads upwards, that begins anew
after its first slashes, or that cannot be read leads nowhere. In return
every file can be had by its path, in whatever way this is written; and the
path of a directory leads to the same path with a slash, and to no file. -/
theorem assets_served (asks : AsksFor s fs r) (plain : r.Unconditional)
    (tree : fs.IsTree) : let answer := (s.answer r).1
    let path := r.target.path.toList
    (answer.status = 200 → ∃ cs f, readPath? path = some cs
      ∧ FoundAt fs (Files.namesOn cs) f ∧ answer.body = f.content)
    ∧ ((∀ cs, readPath? path = some cs →
      ".." ∈ Files.split (String.ofList cs) →
          answer.status = 404)
      ∧ (∀ cs, readPath? (path.dropWhile (· = '/')) = some ('/' :: cs) →
        answer.status = 404)
      ∧ (readPath? path = none → answer.status = 404))
    ∧ (∀ names f uri, (names, f) ∈ fs.entries → WrittenPath names uri.toList →
        r.target = Target.ofText uri →
          answer.status = 200 ∧ answer.body = f.content)
    ∧ ∀ names uri, names ≠ [] → fs.isDirectory names = true →
      WrittenPath names uri.toList → r.target = Target.ofText uri →
        answer.status = 307 ∧ answer.body = []
          ∧ answer.headers.get? "location" = some (uri ++ "/") := by
  intro answer path
  have out : answer = _ := Site.answer_asset asks
  have status :
      answer.status
        = ((Asset.ofTarget (some fs) r.target).answer r).status := by
    rw [out]
    rfl
  have body :
      answer.body = ((Asset.ofTarget (some fs) r.target).answer r).body := by
    rw [out]
    rfl
  have missing (h : Http.assetPath? r.target.path = none) :
      answer.status = 404 := by
    rw [status, Asset.ofTarget_missing h]
    rfl
  refine ⟨fun ok => ?_,
    ⟨fun cs read up => missing (Http.assetPath?_upwards read up),
      fun cs read => missing (Http.assetPath?_rooted read),
    fun unread => missing (Http.assetPath?_unread unread)⟩,
    fun names f uri mem written target => ?_,
    fun names uri below directory written target => ?_⟩
  · obtain ⟨cs, f, read, found, content⟩ :=
      Asset.foundAt_of_status plain (status ▸ ok)
    exact ⟨cs, f, read, found, body.trans content⟩
  · rw [written.target_eq (tree.below _ mem)] at target
    have written : WrittenPath names r.target.path.toList := target ▸ written
    obtain ⟨ok, content⟩ := Asset.answer_file tree mem written plain
    exact ⟨status.trans ok, body.trans content⟩
  · rw [written.target_eq below] at target
    have written : WrittenPath names r.target.path.toList := target ▸ written
    have there := Asset.answer_directory tree directory below written
    have location : r.target.withSlash.render = uri ++ "/" := by
      rw [target, Target.withSlash, Target.render, String.empty_append]
      exact String.append_empty
    rw [there, location] at status body out
    refine ⟨status, body, ?_⟩
    have named : Http.Headers.fold "location" = "location" := by decide +kernel
    have first :
        Http.Headers.get? [("location", uri ++ "/")] "location"
          = some (uri ++ "/") := by
      simp [Http.Headers.get?, named]
    rw [out]
    exact Http.Response.get?_adding _ _ first

/-- A file with a blank, a percent sign and a letter of two bytes in its path,
the directory that it is in, and a way out of it. -/
theorem assets_served_escaped :
    let page : File := ⟨[0x41], 0⟩
    let fs : Files := ⟨[(["index.html"], ⟨[], 0⟩), (["a b", "ü%.txt"], page)]⟩
    let s : Site :=
      { config :=
          { Server.Config.standard .debug with
            cors := true, staticDir := some "site" }
        assets := some fs }
    let answer (uri : String) : Http.Response :=
      (s.answer { target := .ofText uri }).1
    (answer "/a%20b/%c3%bc%25.txt").status = 200
    ∧ (answer "/a%20b/%c3%bc%25.txt").body = page.content
    ∧ (answer "/a%20b").status = 307
    ∧ (answer "/a%20b").headers.get? "location" = some "/a%20b/"
    ∧ (answer "/a%20b/%2e%2e/index.html").status = 404 := by
  intro page fs s answer
  have entries {P : List String × File → Prop}
    (first : P (["index.html"], ⟨[], 0⟩))
    (second : P (["a b", "ü%.txt"], page)) : ∀ e ∈ fs.entries, P e :=
    List.forall_mem_cons.2
      ⟨first, List.forall_mem_cons.2 ⟨second, List.forall_mem_nil _⟩⟩
  have index : Files.IsName "index.html" := ⟨by decide, by decide, by decide⟩
  have directory : Files.IsName "a b" := ⟨by decide, by decide, by decide⟩
  have file : Files.IsName "ü%.txt" := ⟨by decide, by decide, by decide⟩
  have tree : fs.IsTree := {
    below := entries (by decide) (by decide)
    names := entries (List.forall_mem_singleton.2 index)
      (List.forall_mem_cons.2 ⟨directory, List.forall_mem_singleton.2 file⟩)
    distinct := by decide
    apart :=
      entries (entries (fun _ => rfl) (by decide))
      (entries (by decide) (fun _ => rfl)) }
  have asks (uri : String)
    (apart : (Target.ofText uri).path ∉ healthPath :: checkPaths) :
      AsksFor s fs { target := .ofText uri } := ⟨rfl, rfl, rfl, apart, rfl⟩
  have plain (uri : String) :
      Http.Request.Unconditional { target := .ofText uri } :=
    ⟨rfl, rfl, rfl⟩
  have writtenFile :
      WrittenPath ["a b", "ü%.txt"] "/a%20b/%c3%bc%25.txt".toList := by
    have written := Http.writtenPath_percentEncoded ["a b", "ü%.txt"]
    rwa [show (List.flatMap _ _) = "/a%20b/%c3%bc%25.txt".toList by
      decide] at written
  have writtenDirectory : WrittenPath ["a b"] "/a%20b".toList := by
    have written := Http.writtenPath_percentEncoded ["a b"]
    rwa [show (List.flatMap _ _) = "/a%20b".toList by decide] at written
  have atFile :=
    (assets_served (asks "/a%20b/%c3%bc%25.txt" (by decide)) (plain _)
      tree).2.2.1
      _ page _ (List.mem_cons_of_mem _ (List.mem_cons_self ..)) writtenFile rfl
  have atDirectory :=
    (assets_served (asks "/a%20b" (by decide)) (plain _) tree).2.2.2
      _ _ (by decide) (by decide) writtenDirectory rfl
  have upwards :=
    (assets_served (asks "/a%20b/%2e%2e/index.html" (by decide)) (plain _)
      tree).2.1.1 "/a b/../index.html".toList (by decide) (by decide)
  exact ⟨atFile.1, atFile.2, atDirectory.1, atDirectory.2.2, upwards⟩

end PatternCheck.Service
