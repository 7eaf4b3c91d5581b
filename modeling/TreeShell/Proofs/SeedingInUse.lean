import Mathlib.Tactic.Common
import TreeShell.Proofs.Effect
import TreeShell.Proofs.Frame
import TreeShell.Proofs.Path.Resolve
import TreeShell.Proofs.Refusal
import TreeShell.Proofs.Seeding
import TreeShell.Proofs.Timeline
import TreeShell.Proofs.Tree.Growth

/-!
# Seeding a tree in use

Seeding puts files into any tree, and any posts can be asked for: their names may be taken, may
occur twice, may be empty or have slashes in them.  Whatever they are, the tree grows by the posts
that are counted.  A post that was refused is refused again, since no directory was made that it
could go into; and so seeding once more does nothing.

## Layers

- `State.Admits`: what it takes to make a node, which a tree does not come to by growing;
- `State.seedStates`: the states that the posts lead through;
- `State.Joined`: growth by a number of nodes, for one post and for all;
- `State.node?_seedStates`: which post a name holds afterwards;
- `FileSystem.seeded_seed`: all that seeding makes of a file system.
-/

namespace TreeShell

open TreeShell.Content TreeShell.Path TreeShell.Time TreeShell.Tree

namespace Tree.State

variable {s s' s'' : State} {now : Instant} {post : Post} {posts : List Post} {keys : List String}
  {op : Operation} {path content : String} {make : String → Node} {made more : Nat}

/-! ## Where a post goes -/

/-- The keys of a post, whatever its name is made of and wherever the working directory is. -/
def postKeys (post : Post) : List String :=
  protectedName :: Path.segments post.name

theorem isAbsolute_postPath (post : Post) : isAbsolute (FileSystem.postPath post) = true := by
  simp [FileSystem.postPath, FileSystem.blogPath, isAbsolute]

theorem segments_postPath_eq (s : State) (post : Post) :
    s.segments (FileSystem.postPath post) = postKeys post := by
  have hBlog : Path.segments FileSystem.blogPath = [protectedName] := by decide
  rw [segments, absoluteSegments_of_isAbsolute (isAbsolute_postPath post), FileSystem.postPath,
    segments_append_slash, hBlog]
  rfl

theorem postKeys_of_isSegment (h : IsSegment post.name) :
    postKeys post = [protectedName, post.name] := by
  rw [← segments_postPath_eq default post, segments_postPath h]

/-! ## What can be made -/

/-- Whether a node can be made at the end of some keys. -/
def Admits (s : State) (keys : List String) : Prop :=
  ∀ c ∈ s.creation keys, c.Holds

theorem admits_iff :
    s.Admits keys ↔ keys ≠ [] ∧ keys.length ≤ maxDepth ∧ s.root.DirectoryAt keys.dropLast ∧
      s.root.lookup? keys = none := by
  simp only [Admits, creation, List.forall_mem_cons, Node.DirectoryAt]
  constructor
  · rintro ⟨hNonempty, hDepth, -, hDirectory, hFree, -⟩
    exact ⟨hNonempty, hDepth, hDirectory, hFree⟩
  · rintro ⟨hNonempty, hDepth, ⟨parent, hParent, hDirectory⟩, hFree⟩
    exact ⟨hNonempty, hDepth, ⟨parent, hParent⟩, ⟨parent, hParent, hDirectory⟩, hFree,
      List.forall_mem_nil _⟩

/-- The protected directory admits every name that is free in it. -/
theorem admits_of_free {name : String} (hDirectory : s.root.DirectoryAt [protectedName])
    (hFree : s.root.lookup? [protectedName, name] = none) : s.Admits [protectedName, name] :=
  admits_iff.2 ⟨by simp, by simp [maxDepth], hDirectory, hFree⟩

theorem admits_of_insert (h : s.insert now op path make = .ok s') :
    s.Admits (s.segments path) := by
  rcases all_or_firstFailing (s.creation (s.segments path)) with hAll | ⟨cause, hFails⟩
  · exact hAll
  · simp [insert_eq_error hFails] at h

/-- What a tree that has grown admits, it admitted before. -/
theorem Admits.of_grown (h : s'.Admits keys) (hGrown : s.root.Grown s'.root) :
    s.Admits keys := by
  obtain ⟨hNonempty, hDepth, hDirectory, hFree⟩ := admits_iff.1 h
  exact admits_iff.2 ⟨hNonempty, hDepth, hGrown.directoryAt _ hDirectory,
    hGrown.lookup?_eq_none hFree⟩

/-! ## The states on the way -/

/-- The states that posts lead through, one for each post that is admitted. -/
def seedStates (now : Instant) : List Post → State → List State
  | [], _ => []
  | post :: posts, s =>
    match s.createFile now (FileSystem.postPath post) post.content with
    | .ok s' => s' :: seedStates now posts s'
    | .error _ => seedStates now posts s

theorem seedStates_cons (now : Instant) (post : Post) (posts : List Post) (s : State) :
    seedStates now (post :: posts) s =
      match s.createFile now (FileSystem.postPath post) post.content with
      | .ok s' => s' :: seedStates now posts s'
      | .error _ => seedStates now posts s := by
  rfl

theorem admits_of_createFile (h : s.createFile now (FileSystem.postPath post) content = .ok s') :
    s.Admits (postKeys post) :=
  segments_postPath_eq s post ▸ admits_of_insert h

theorem not_admits_of_createFile {f : Failure}
    (h : s.createFile now (FileSystem.postPath post) content = .error f) :
    ¬ s.Admits (postKeys post) := by
  intro hAdmits
  rw [← segments_postPath_eq s post] at hAdmits
  obtain ⟨s', hMade⟩ : ∃ s', s.createFile now (FileSystem.postPath post) content = .ok s' :=
    exists_insert_eq_ok hAdmits
  simp [hMade] at h

/-! ## Growth -/

/-- Whether one state is another into which a number of files came. -/
structure Joined (made : Nat) (s s' : State) : Prop where
  grown : s.root.Grown s'.root
  count_eq : s'.root.count = s.root.count + made

theorem Joined.refl (s : State) : s.Joined 0 s :=
  ⟨.refl _, rfl⟩

theorem Joined.trans (h : s.Joined made s') (h' : s'.Joined more s'') :
    s.Joined (made + more) s'' where
  grown := h.grown.trans h'.grown
  count_eq := by rw [h'.count_eq, h.count_eq, Nat.add_assoc]

theorem joined_createFile (hKeys : s.root.DistinctKeys)
    (h : s.createFile now path content = .ok s') : s.Joined 1 s' := by
  obtain ⟨parents, name, -, hAdded⟩ := added_of_insert hKeys (fun _ => ⟨rfl, rfl⟩) h
  exact ⟨hAdded.tree.grown fun _ _ hGains => hGains.grown rfl,
    hAdded.tree.count_eq fun _ _ hGains => hGains.count_eq⟩

theorem distinctKeys_createFile (hKeys : s.root.DistinctKeys)
    (h : s.createFile now path content = .ok s') : s'.root.DistinctKeys := by
  have hStep : Step (fun _ => False) now s s' := step_of_createFile h
  exact hStep.distinctKeys hKeys

/-- **All posts** make a tree grow, by one node for each that is admitted. -/
theorem joined_seedStates (hKeys : s.root.DistinctKeys) :
    s.Joined (seedStates now posts s).length ((seedStates now posts s).getLastD s) := by
  fun_induction seedStates now posts s with
  | case1 s => exact .refl s
  | case2 post posts s s' hMade ih =>
    rw [List.length_cons, List.getLastD_cons, Nat.add_comm]
    exact (joined_createFile hKeys hMade).trans (ih (distinctKeys_createFile hKeys hMade))
  | case3 post posts s f hRefused ih => exact ih hKeys

/-! ## Once more -/

/-- **Refused for good**: when the posts are through, none of them is admitted. -/
theorem not_admits_seedStates (hKeys : s.root.DistinctKeys) (hMem : post ∈ posts) :
    ¬ ((seedStates now posts s).getLastD s).Admits (postKeys post) := by
  -- The post is taken or refused at its turn, and the tree only grows from then on.
  fun_induction seedStates now posts s with
  | case1 s => cases hMem
  | case2 first posts s s' hMade ih =>
    have hKeys' : s'.root.DistinctKeys := distinctKeys_createFile hKeys hMade
    rw [List.getLastD_cons]
    rcases List.mem_cons.1 hMem with rfl | hRest
    · intro hAdmits
      have hFree := (admits_iff.1 (hAdmits.of_grown (joined_seedStates hKeys').grown)).2.2.2
      obtain ⟨name, -, hFound⟩ := node?_of_insert hMade
      rw [node?, segments_postPath_eq, hFree] at hFound
      cases hFound
    · exact ih hKeys' hRest
  | case3 first posts s f hRefused ih =>
    rcases List.mem_cons.1 hMem with rfl | hRest
    · intro hAdmits
      exact not_admits_of_createFile hRefused
        (hAdmits.of_grown (joined_seedStates hKeys).grown)
    · exact ih hKeys hRest

/-- Posts that are not admitted lead nowhere. -/
theorem seedStates_eq_nil (h : ∀ post ∈ posts, ¬ s.Admits (postKeys post)) :
    seedStates now posts s = [] := by
  fun_induction seedStates now posts s with
  | case1 s => rfl
  | case2 post posts s s' hMade ih =>
    exact absurd (admits_of_createFile hMade) (h post List.mem_cons_self)
  | case3 post posts s f hRefused ih =>
    exact ih fun other hMem => h other (List.mem_cons_of_mem _ hMem)

/-! ## Which post a name holds -/

/-- A free place stays free when another post goes elsewhere. -/
theorem node?_createFile_of_ne {other : Post} (hKeys : s.root.DistinctKeys)
    (hFree : s.node? (FileSystem.postPath other) = none) (hOther : postKeys other ≠ postKeys post)
    (h : s.createFile now (FileSystem.postPath post) content = .ok s') :
    s'.node? (FileSystem.postPath other) = none := by
  obtain ⟨parents, last, hSegments, hAdded⟩ := added_of_insert hKeys (fun _ => ⟨rfl, rfl⟩) h
  rw [hAdded.aside (FileSystem.postPath other), hFree]
  intro hPrefix
  rcases List.prefix_concat_iff.1 hPrefix with hHere | hAbove
  · have hSame := hHere.trans hSegments.symm
    rw [segments_postPath_eq, segments_postPath_eq] at hSame
    exact hOther hSame
  · -- The new file would go below a node that is not there.
    obtain ⟨n, n', hFound, -⟩ := hAdded.above _ hAbove
    simp [hFree] at hFound

/-- **First come**: a free name in the protected directory goes to the first post that asks for
it. -/
theorem node?_seedStates {wanted : Post} (hKeys : s.root.DistinctKeys)
    (hName : IsSegment wanted.name) (hDirectory : s.root.DirectoryAt [protectedName])
    (hFree : s.node? (FileSystem.postPath wanted) = none) :
    ((seedStates now posts s).getLastD s).node? (FileSystem.postPath wanted)
      = (posts.find? fun p => Path.segments p.name = [wanted.name]).map fun p =>
          .newFile wanted.name p.content now := by
  have hWanted : postKeys wanted = [protectedName, wanted.name] := postKeys_of_isSegment hName
  fun_induction seedStates now posts s with
  | case1 s => exact hFree
  | case2 post posts s s' hMade ih =>
    have hKeys' : s'.root.DistinctKeys := distinctKeys_createFile hKeys hMade
    rw [List.getLastD_cons, List.find?_cons]
    by_cases hAsks : Path.segments post.name = [wanted.name]
    · -- The post takes the name, and a file stays as it is.
      have hSame : postKeys post = [protectedName, wanted.name] := congrArg _ hAsks
      obtain ⟨last, hLast, hFound⟩ := node?_of_insert hMade
      rw [segments_postPath_eq, hSame] at hLast
      obtain rfl : wanted.name = last := Option.some.inj hLast
      rw [node?, segments_postPath_eq, hSame] at hFound
      obtain ⟨n, hAfter, hKept⟩ := (joined_seedStates hKeys').grown.kept _ _ hFound
      rw [node?, segments_postPath_eq, hWanted, hAfter, hKept.eq_of_file rfl]
      simp [hAsks]
    · have hOther : postKeys wanted ≠ postKeys post := by
        rw [hWanted]
        exact fun hSame => hAsks (List.cons.inj hSame).2.symm
      rw [ih hKeys' ((joined_createFile hKeys hMade).grown.directoryAt_iff.2 hDirectory)
        (node?_createFile_of_ne hKeys hFree hOther hMade)]
      simp [hAsks]
  | case3 post posts s f hRefused ih =>
    have hAsks : Path.segments post.name ≠ [wanted.name] := by
      intro hAsks
      have hSame : postKeys post = [protectedName, wanted.name] := congrArg _ hAsks
      rw [node?, segments_postPath_eq, hWanted] at hFree
      exact not_admits_of_createFile hRefused (hSame ▸ admits_of_free hDirectory hFree)
    rw [ih hKeys hDirectory hFree, List.find?_cons]
    simp [hAsks]

/-! ## From another working directory -/

theorem createFile_setCurrentPath (h : isAbsolute path = true) (cwd : String) :
    (s.setCurrentPath cwd).createFile now path content
      = (·.setCurrentPath cwd) <$> s.createFile now path content := by
  have hSegments : (s.setCurrentPath cwd).segments path = s.segments path := by
    rw [segments, segments, absoluteSegments_of_isAbsolute h, absoluteSegments_of_isAbsolute h]
  have hRoot : (s.setCurrentPath cwd).root = s.root := rfl
  simp only [createFile, insert, hSegments, hRoot]
  -- Each check in turn, decided the same on both sides.
  split
  · rfl
  · split
    · rfl
    · split
      · rfl
      · split
        · rfl
        · split <;> rfl

theorem seedStates_setCurrentPath (cwd : String) :
    seedStates now posts (s.setCurrentPath cwd)
      = (seedStates now posts s).map (·.setCurrentPath cwd) := by
  fun_induction seedStates now posts s with
  | case1 s => rfl
  | case2 post posts s s' hMade ih =>
    rw [seedStates_cons, createFile_setCurrentPath (isAbsolute_postPath post), hMade]
    simp [ih]
  | case3 post posts s f hRefused ih =>
    rw [seedStates_cons, createFile_setCurrentPath (isAbsolute_postPath post), hRefused]
    simp [ih]

end Tree.State

/-! ## Seeding a file system -/

namespace FileSystem

variable {fs : FileSystem} {now : Instant} {post : Post} {posts : List Post}

/-- A post is counted and saved when the tree admits it: what is taken is refused anyway. -/
theorem addPost_eq_commit (fs : FileSystem) (count : Nat) (post : Post) :
    addPost now (count, fs) post =
      match fs.state.createFile now (postPath post) post.content with
      | .ok s => (count + 1, fs.commit s)
      | .error _ => (count, fs) := by
  cases hMade : fs.state.createFile now (postPath post) post.content with
  | error f =>
    simp only [addPost, createFile, hMade]
    split <;> rfl
  | ok s =>
    have hFree : fs.node? (postPath post) = none := by
      rw [node?, State.node?, State.segments_postPath_eq]
      exact (State.admits_iff.1 (State.admits_of_createFile hMade)).2.2.2
    simp only [addPost, createFile, hMade, hFree]
    rfl

theorem foldl_addPost_eq_commit (posts : List Post) (fs : FileSystem) (count : Nat) :
    posts.foldl (addPost now) (count, fs)
      = (count + (State.seedStates now posts fs.state).length,
          (State.seedStates now posts fs.state).foldl commit fs) := by
  induction posts generalizing fs count with
  | nil => rfl
  | cons post posts ih =>
    rw [List.foldl_cons, addPost_eq_commit, State.seedStates_cons]
    cases fs.state.createFile now (postPath post) post.content with
    | error f => exact ih fs count
    | ok s =>
      refine (ih (fs.commit s) (count + 1)).trans ?_
      rw [Nat.add_right_comm, Nat.add_assoc]
      rfl

theorem canSeed_iff_directoryAt : fs.CanSeed ↔ fs.state.root.DirectoryAt [protectedName] := by
  rw [canSeed_iff, State.segments_blogPath]

theorem seed_eq_commit (h : fs.CanSeed) (now : Instant) (posts : List Post) :
    fs.seed now posts = ((State.seedStates now posts fs.state).length,
      (State.seedStates now posts fs.state).foldl commit fs) := by
  rw [seed_of_canSeed h, foldl_addPost_eq_commit, Nat.zero_add]

theorem writes_foldl_commit (states : List State) (fs : FileSystem) :
    (states.foldl commit fs).store.writes = fs.store.writes + states.length := by
  induction states generalizing fs with
  | nil => rfl
  | cons s states ih =>
    rw [List.foldl_cons, ih, List.length_cons, Shell.writes_commit, Nat.add_assoc, Nat.add_comm 1]

theorem state_seed (h : fs.CanSeed) (now : Instant) (posts : List Post) :
    (fs.seed now posts).2.state = (State.seedStates now posts fs.state).getLastD fs.state := by
  rw [seed_eq_commit h, state_foldl_commit]

theorem grown_seed (hKeys : fs.state.root.DistinctKeys) (now : Instant) (posts : List Post) :
    fs.state.root.Grown (fs.seed now posts).2.state.root := by
  by_cases h : fs.CanSeed
  · rw [state_seed h]
    exact (State.joined_seedStates hKeys).grown
  · rw [seed_of_not_canSeed h]
    exact .refl _

theorem CanSeed.seed (h : fs.CanSeed) (hKeys : fs.state.root.DistinctKeys) (now : Instant)
    (posts : List Post) : (fs.seed now posts).2.CanSeed := by
  rw [canSeed_iff_directoryAt] at h ⊢
  exact (grown_seed hKeys now posts).directoryAt_iff.2 h

/-- What a name holds after seeding: a post of this name is there, and where nothing was before it
is the first post that addresses it. -/
theorem exists_node?_seed (hKeys : fs.state.root.DistinctKeys) (h : fs.CanSeed)
    (hMem : post ∈ posts) (hName : IsSegment post.name) :
    ∃ n, (fs.seed now posts).2.node? (postPath post) = some n ∧
      (fs.node? (postPath post) = none → ∃ first,
        posts.find? (fun p => segments p.name = [post.name]) = some first ∧
        n = .newFile post.name first.content now) := by
  have hRefused : ¬ (fs.seed now posts).2.state.Admits (State.postKeys post) := by
    rw [state_seed h]
    exact State.not_admits_seedStates hKeys hMem
  have hDirectory : (fs.seed now posts).2.state.root.DirectoryAt [protectedName] :=
    canSeed_iff_directoryAt.1 (h.seed hKeys now posts)
  -- The directory is there, so the name must be taken.
  obtain ⟨n, hFound⟩ : ∃ n, (fs.seed now posts).2.node? (postPath post) = some n := by
    rw [State.postKeys_of_isSegment hName] at hRefused
    rw [node?, State.node?, State.segments_postPath_eq, State.postKeys_of_isSegment hName]
    exact Option.ne_none_iff_exists'.1 fun hFree => hRefused (State.admits_of_free hDirectory hFree)
  refine ⟨n, hFound, fun hFree => ?_⟩
  rw [node?, state_seed h,
    State.node?_seedStates hKeys hName (canSeed_iff_directoryAt.1 h) hFree,
    Option.map_eq_some_iff] at hFound
  obtain ⟨first, hFirst, rfl⟩ := hFound
  exact ⟨first, hFirst, rfl⟩

/-- The file system with another working directory, not saved yet. -/
def standingAt (fs : FileSystem) (cwd : String) : FileSystem :=
  { fs with state := fs.state.setCurrentPath cwd }

theorem canSeed_standingAt (cwd : String) : (fs.standingAt cwd).CanSeed ↔ fs.CanSeed := by
  rw [canSeed_iff_directoryAt, canSeed_iff_directoryAt]
  exact Iff.rfl

/-- Seeding does not depend on the working directory, and leaves it. -/
theorem seed_standingAt (fs : FileSystem) (now : Instant) (posts : List Post) (cwd : String) :
    ((fs.standingAt cwd).seed now posts).1 = (fs.seed now posts).1 ∧
      ((fs.standingAt cwd).seed now posts).2.state
        = (fs.seed now posts).2.state.setCurrentPath cwd ∧
      ((fs.standingAt cwd).seed now posts).2.store.writes
        = (fs.seed now posts).2.store.writes := by
  by_cases h : fs.CanSeed
  · have hThere : (fs.standingAt cwd).CanSeed := (canSeed_standingAt cwd).2 h
    rw [state_seed h, state_seed hThere, seed_eq_commit h, seed_eq_commit hThere]
    simp only [standingAt, State.seedStates_setCurrentPath, List.length_map, List.getLastD_map,
      writes_foldl_commit, and_self]
  · rw [seed_of_not_canSeed h, seed_of_not_canSeed (mt (canSeed_standingAt cwd).1 h)]
    exact ⟨rfl, rfl, rfl⟩

/-- **Seeding once more** with the same posts does nothing. -/
theorem seed_seed (hKeys : fs.state.root.DistinctKeys) (now later : Instant)
    (posts : List Post) :
    (fs.seed now posts).2.seed later posts = (0, (fs.seed now posts).2) := by
  by_cases h : fs.CanSeed
  · have hNone : State.seedStates later posts (fs.seed now posts).2.state = [] := by
      rw [state_seed h]
      exact State.seedStates_eq_nil fun post hMem => State.not_admits_seedStates hKeys hMem
    rw [seed_eq_commit (h.seed hKeys now posts), hNone]
    rfl
  · rw [seed_of_not_canSeed h, seed_of_not_canSeed h]

/-! ## All of it -/

/-- All that seeding with some posts makes of a file system. -/
structure Seeded (now : Instant) (posts : List Post) (fs : FileSystem) (count : Nat)
    (fs' : FileSystem) : Prop where
  /-- The number that is answered is that of the new nodes. -/
  nodes : fs'.state.root.count = fs.state.root.count + count
  /-- It is also the number of writes that were tried. -/
  saves : fs'.store.writes = fs.store.writes + count
  kept : ∀ keys n, fs.state.root.lookup? keys = some n →
    ∃ n', fs'.state.root.lookup? keys = some n' ∧ n.Kept n'
  /-- Every post whose name can be a key is there, and a name that was free has gone to the first
  post that addresses it. -/
  stocked : fs.CanSeed → ∀ post ∈ posts, IsSegment post.name →
    ∃ n, fs'.node? (postPath post) = some n ∧
      (fs.node? (postPath post) = none → ∃ first,
        posts.find? (fun p => segments p.name = [post.name]) = some first ∧
        n = .newFile post.name first.content now)
  idle : ¬ fs.CanSeed → count = 0 ∧ fs' = fs
  /-- The working directory does not matter. -/
  anywhere : ∀ cwd,
    ((fs.standingAt cwd).seed now posts).1 = count ∧
      ((fs.standingAt cwd).seed now posts).2.state = fs'.state.setCurrentPath cwd ∧
      ((fs.standingAt cwd).seed now posts).2.store.writes = fs'.store.writes
  again : ∀ later, fs'.seed later posts = (0, fs')

/-- **Seeding a tree in use**: in a tree of maps, seeding answers how many nodes and how many
writes there are more than before.  Every node is kept, and a file is as it was altogether; each
post is there whose name can be a key, and where its name was free the first post that addresses
it is; and a second time does nothing. -/
theorem seeded_seed (hKeys : fs.state.root.DistinctKeys) (now : Instant) (posts : List Post) :
    fs.Seeded now posts (fs.seed now posts).1 (fs.seed now posts).2 where
  nodes := by
    by_cases h : fs.CanSeed
    · rw [state_seed h, seed_eq_commit h]
      exact (State.joined_seedStates hKeys).count_eq
    · rw [seed_of_not_canSeed h, Nat.add_zero]
  saves := by
    by_cases h : fs.CanSeed
    · rw [seed_eq_commit h]
      exact writes_foldl_commit _ fs
    · rw [seed_of_not_canSeed h, Nat.add_zero]
  kept := (grown_seed hKeys now posts).kept
  stocked := fun h post hMem hName => exists_node?_seed hKeys h hMem hName
  idle := by
    intro h
    rw [seed_of_not_canSeed h]
    exact ⟨rfl, rfl⟩
  anywhere := seed_standingAt fs now posts
  again := fun later => seed_seed hKeys now later posts

/-- Posts that crowd each other: one is there already, two address one name, one has no name, and
one would go below another. -/
def crowd : List Post :=
  [⟨"a", "0"⟩, ⟨"x/", "1"⟩, ⟨"x", "2"⟩, ⟨"", "3"⟩, ⟨"c//b", "4"⟩, ⟨"x/y", "5"⟩]

theorem seeded_seed_namesakes :
    namesakes.state.root.DistinctKeys ∧ (namesakes.seed noon crowd).1 = 2 ∧
      namesakes.Seeded noon crowd (namesakes.seed noon crowd).1 (namesakes.seed noon crowd).2 :=
  ⟨distinctKeys_namesakes, by decide +kernel, seeded_seed distinctKeys_namesakes noon crowd⟩

/-- A free name need not go to the first post of this name: one with a slash behind the name
addresses it too, and can come before. -/
theorem not_read_seed_firstNamed :
    ¬ ∀ (fs : FileSystem) (now : Instant) (posts : List Post), fs.state.root.DistinctKeys →
      fs.CanSeed → ∀ post ∈ posts, IsSegment post.name →
      fs.node? (postPath post) = none → ∃ first,
        posts.find? (fun p => p.name = post.name) = some first ∧
        (fs.seed now posts).2.read (postPath post) = .ok first.content := by
  intro h
  have hCan : namesakes.CanSeed := canSeed_iff_directoryAt.2 ⟨_, rfl, rfl⟩
  obtain ⟨first, hFirst, hRead⟩ := h namesakes noon [⟨"x/", "1"⟩, ⟨"x", "2"⟩]
    distinctKeys_namesakes hCan ⟨"x", "2"⟩ (by simp) (by decide) (by decide +kernel)
  have hSecond : first = ⟨"x", "2"⟩ := by simpa using hFirst.symm
  have hFound : ((namesakes.seed noon [⟨"x/", "1"⟩, ⟨"x", "2"⟩]).2.read
      (postPath ⟨"x", "2"⟩)).toOption = some "1" := by decide +kernel
  rw [hRead, hSecond] at hFound
  exact absurd hFound (by decide)

end FileSystem

end TreeShell
