import Mathlib.Tactic.Common
import TreeShell.Seed
import TreeShell.Proofs.Tree.Step

/-!
# Seeding a new tree

In the initial tree the protected directory is there and empty.  Seeding puts every post into
it then, one after the other, as long as their names can be keys and no two are the same.  The
bundled posts are such.

## Layers

- `State.stocked`: the initial state with posts in the protected directory;
- `State.createFile_stocked`, `FileSystem.addPost_stocked`: one more post;
- `FileSystem.seed_initial`: all posts, counted;
- `fit_posts`: the bundled posts.
-/

namespace TreeShell

open TreeShell.Content TreeShell.Path TreeShell.Time TreeShell.Tree

/-- Whether posts can stand beside each other in one directory. -/
structure Fit (posts : List Post) : Prop where
  names : (posts.map Post.name).Nodup
  segments : ∀ post ∈ posts, IsSegment post.name

theorem Fit.name_notMem {before rest : List Post} {post : Post}
    (h : Fit (before ++ post :: rest)) : post.name ∉ before.map Post.name := by
  have hNames := h.names
  rw [List.map_append, List.map_cons, List.nodup_append] at hNames
  exact fun hMem => hNames.2.2 _ hMem _ List.mem_cons_self rfl

/-! ## Trees with posts -/

namespace Tree.State

/-- The protected directory with some posts in it. -/
def shelf (now : Instant) (posts : List Post) : Node :=
  .directory protectedName (posts.map fun p => (p.name, .newFile p.name p.content now)) now now

/-- The initial state with some posts in the protected directory. -/
def stocked (now : Instant) (posts : List Post) : State where
  root := .directory "root" [(protectedName, shelf now posts)] now now
  currentPath := "/"

theorem stocked_nil (now : Instant) : stocked now [] = initial now := rfl

theorem keys_shelf (now : Instant) (posts : List Post) :
    (shelf now posts).keys = posts.map Post.name := by
  simp [shelf, Node.keys, Node.entries, Node.children?, Function.comp_def]

theorem lookup?_stocked (now : Instant) (posts : List Post) (rest : List String) :
    (stocked now posts).root.lookup? (protectedName :: rest)
      = (shelf now posts).lookup? rest := rfl

variable {now : Instant} {posts : List Post} {post : Post}

theorem segments_blogPath (s : State) : s.segments FileSystem.blogPath = [protectedName] :=
  absoluteSegments_of_isAbsolute rfl s.currentPath

theorem segments_postPath (h : IsSegment post.name) (s : State) :
    s.segments (FileSystem.postPath post) = [protectedName, post.name] := by
  have hPath : FileSystem.postPath post = join [protectedName, post.name] := by
    apply String.toList_inj.1
    simp [FileSystem.postPath, FileSystem.blogPath, join, List.intercalate, List.intersperse]
  have hBlog : IsSegment protectedName := by decide
  rw [segments, hPath, absoluteSegments_join (by simp [hBlog, h])]

theorem child?_shelf_eq_none {name : String} (hFree : name ∉ posts.map Post.name) :
    (shelf now posts).child? name = none := by
  rw [Node.child?_eq_none_iff_notMem, keys_shelf]
  exact hFree

theorem node?_stocked_eq_none (h : IsSegment post.name) (hFree : post.name ∉ posts.map Post.name) :
    (stocked now posts).node? (FileSystem.postPath post) = none := by
  rw [node?, segments_postPath h, lookup?_stocked, Node.lookup?, child?_shelf_eq_none hFree,
    Option.bind_none]

/-- **One more post** is made as a file behind those that are there. -/
theorem createFile_stocked (h : IsSegment post.name) (hFree : post.name ∉ posts.map Post.name) :
    (stocked now posts).createFile now (FileSystem.postPath post) post.content
      = .ok (stocked now (posts ++ [post])) := by
  refine insert_eq_ok_iff.2 ⟨[protectedName], post.name, shelf now posts, segments_postPath h _,
    by decide, rfl, rfl, child?_shelf_eq_none hFree, ?_⟩
  -- The root and the protected directory have this instant already, so stamping them is no change.
  simp [stocked, shelf, alter, Node.alter, Node.stamp, Node.mapChild, Node.addChild]

end Tree.State

/-! ## Seeding -/

namespace FileSystem

open TreeShell.Tree.State

variable {now : Instant} {fs : FileSystem} {posts : List Post}

theorem addPost_stocked {post : Post} (hState : fs.state = stocked now posts)
    (h : IsSegment post.name) (hFree : post.name ∉ posts.map Post.name) (count : Nat) :
    addPost now (count, fs) post = (count + 1, fs.commit (stocked now (posts ++ [post]))) := by
  have hNone : fs.node? (postPath post) = none := by
    rw [node?, hState, node?_stocked_eq_none h hFree]
  have hCreate : fs.createFile now (postPath post) post.content
      = .ok (fs.commit (stocked now (posts ++ [post]))) := by
    rw [createFile, hState, createFile_stocked h hFree]
    rfl
  simp only [addPost, hNone, hCreate, Option.isSome_none, Bool.false_eq_true, if_false]

/-- **Seeding the initial tree** puts all posts into it. -/
theorem seed_initial (hState : fs.state = initial now) (hFit : Fit posts) :
    (fs.seed now posts).1 = posts.length ∧ (fs.seed now posts).2.state = stocked now posts := by
  -- By induction on the posts that are left, with any posts in the tree already.
  have hFold : ∀ (rest before : List Post) (fs : FileSystem), Fit (before ++ rest) →
      fs.state = stocked now before → ∀ count,
      (rest.foldl (addPost now) (count, fs)).1 = count + rest.length ∧
        (rest.foldl (addPost now) (count, fs)).2.state = stocked now (before ++ rest) := by
    intro rest
    induction rest with
    | nil =>
      intro before fs _ hState count
      exact ⟨rfl, by rw [List.append_nil]; exact hState⟩
    | cons post rest ih =>
      intro before fs hFit hState count
      have hSegment : IsSegment post.name :=
        hFit.segments post (List.mem_append_right _ List.mem_cons_self)
      -- This post joins those before it, and the names behind it are free as they were.
      have hNext : before ++ post :: rest = (before ++ [post]) ++ rest := by simp
      rw [List.foldl_cons, addPost_stocked hState hSegment hFit.name_notMem, hNext]
      obtain ⟨hCount, hAfter⟩ := ih (before ++ [post]) (fs.commit (stocked now (before ++ [post])))
        (hNext ▸ hFit) rfl (count + 1)
      exact ⟨by rw [hCount, List.length_cons]; omega, hAfter⟩
  have hBlog : (fs.node? blogPath).any Node.isDirectory = true := by
    rw [node?, hState, State.node?, segments_blogPath]
    rfl
  rw [seed, if_pos hBlog]
  obtain ⟨hCount, hAfter⟩ := hFold posts [] fs hFit (hState.trans (stocked_nil now).symm) 0
  exact ⟨by rw [hCount, Nat.zero_add], hAfter⟩

end FileSystem

/-- The bundled posts can stand beside each other. -/
theorem fit_posts : Fit Content.posts :=
  ⟨by decide, by decide⟩

end TreeShell
