import PlantGrammar.Proofs.Drawing.Failures
import PlantGrammar.Proofs.Word.Brackets

/-!
# Pens

What a symbol adds to the vertices of a mesh depends on the poses of the turtle and on the random
source, but not on the mesh that is there already.  A pen is that part of a canvas; `Pen.run` moves
it over a word, and `Pen.strokes` lists the vertices that it draws, symbol by symbol.

* `Canvas.HasPen.walk`: a walk that succeeds moves the pen of the canvas and appends its strokes.
* `Species.mesh_build_eq_ok_iff`: the mesh of a word consists of the strokes of a pen that starts at
  the root, with the indices of the layout.
* `Pen.saved_run`: a pen comes back to what was saved before a balanced word.
* `Pen.length_saved_run`: a pen that starts at the root has saved a pose for each open branch.
-/

namespace PlantGrammar

/-! ### What a mesh gains -/

namespace MeshBuilder

/-- The coordinates of the vertices follow those that were there before. -/
structure Gains (b : MeshBuilder) (vs : List Vertex) (b' : MeshBuilder) : Prop where
  positions : b'.positions.toList = b.positions.toList ++ positionCoordinates vs
  normals : b'.normals.toList = b.normals.toList ++ normalCoordinates vs

variable {b b' b'' : MeshBuilder} {vs vs' : List Vertex}

theorem positionCoordinates_append (vs vs' : List Vertex) :
    positionCoordinates (vs ++ vs') = positionCoordinates vs ++ positionCoordinates vs' :=
  List.flatMap_append

theorem normalCoordinates_append (vs vs' : List Vertex) :
    normalCoordinates (vs ++ vs') = normalCoordinates vs ++ normalCoordinates vs' :=
  List.flatMap_append

theorem gains_nil (b : MeshBuilder) : b.Gains [] b :=
  ⟨(List.append_nil _).symm, (List.append_nil _).symm⟩

theorem Gains.append (first : b.Gains vs b') (second : b'.Gains vs' b'') :
    b.Gains (vs ++ vs') b'' where
  positions := by
    rw [second.positions, first.positions, positionCoordinates_append, List.append_assoc]
  normals := by
    rw [second.normals, first.normals, normalCoordinates_append, List.append_assoc]

theorem gains_pushVertices (b : MeshBuilder) (vs : List Vertex) : b.Gains vs (b.pushVertices vs) :=
  ⟨toList_positions_pushVertices b vs, toList_normals_pushVertices b vs⟩

theorem gains_withBlock (b : MeshBuilder) (base : UInt32) (block : Block) :
    b.Gains block.vertices (b.withBlock base block) :=
  ⟨(b.gains_pushVertices block.vertices).positions, (b.gains_pushVertices block.vertices).normals⟩

/-- A block that is appended gives the mesh its vertices. -/
theorem gains_append {block : Block} (ok : (b.append block).2 = none) :
    b.Gains block.vertices (b.append block).1 := by
  rcases append_cases b block with ⟨-, e⟩ | ⟨-, -, e⟩ | ⟨-, base, -, e⟩
  · rw [e] at ok
    cases ok
  · rw [e] at ok
    cases ok
  · rw [e]
    exact gains_withBlock b base block

end MeshBuilder

theorem Mesh.eq_of_lists {m m' : Mesh}
    (indices : m.indices.toList.map UInt32.toNat = m'.indices.toList.map UInt32.toNat)
    (positions : m.positions.toList = m'.positions.toList)
    (normals : m.normals.toList = m'.normals.toList) : m = m' := by
  have same := (List.map_inj_right fun _ _ => UInt32.toNat.inj).1 indices
  obtain ⟨is, ps, ns⟩ := m
  obtain ⟨is', ps', ns'⟩ := m'
  cases Array.ext' same
  cases Array.ext' positions
  cases Array.ext' normals
  rfl

/-! ### Pens -/

/-- The current pose, the poses saved below it, and the random source. -/
structure Pen (σ : Type) where
  pose : Pose
  saved : List Pose
  source : σ

namespace Pen

variable {σ : Type}

/-- The pen with which drawing starts. -/
def root (source : σ) : Pen σ := ⟨.root, [], source⟩

/-- The number of poses, as the turtle counts them. -/
def depth (p : Pen σ) : Nat := p.saved.length + 1

variable [RandomSource σ]

/-- The length of a segment drawn next. -/
def segmentLength (p : Pen σ) (h : Habit) : Float32 :=
  h.branchLength p.depth (RandomSource.unitOfWord (RandomSource.next p.source).1)

/-- The pen after a symbol.  A bracket that closes no branch leaves it where it is. -/
def step (h : Habit) (p : Pen σ) (s : Symbol) : Pen σ :=
  match s.action, p.saved with
  | .push, saved => { p with saved := p.pose :: saved }
  | .pop, q :: saved => { p with pose := q, saved }
  | .branch, _ =>
    { p with
      pose := p.pose.advance (p.segmentLength h)
      source := (RandomSource.next p.source).2 }
  | .turn, _ =>
    let (x, rest) := RandomSource.next p.source
    let (y, rest) := RandomSource.next rest
    { p with
      pose := p.pose.reorient (TurnTemplate.ofWord y) (h.turnAngle (RandomSource.unitOfWord x))
      source := rest }
  | _, _ => p

/-- The vertices drawn for a symbol. -/
def stroke (h : Habit) (f : Flower) (p : Pen σ) (s : Symbol) : List Vertex :=
  match s.action with
  | .branch => ((Box.segment (h.branchWidth p.depth) (p.segmentLength h)).place p.pose).vertices
  | .flower => (f.blockAt h p.pose).vertices
  | _ => []

/-- The pen after a word. -/
def run (h : Habit) (p : Pen σ) (w : Word) : Pen σ := w.foldl (step h) p

/-- The vertices drawn for the symbols of a word. -/
def strokes (h : Habit) (f : Flower) (p : Pen σ) : Word → List (List Vertex)
  | [] => []
  | s :: w => p.stroke h f s :: strokes h f (p.step h s) w

variable (h : Habit) (f : Flower) (p : Pen σ)

@[simp]
theorem run_nil : p.run h [] = p := rfl

@[simp]
theorem run_cons (s : Symbol) (w : Word) : p.run h (s :: w) = (p.step h s).run h w := rfl

@[simp]
theorem run_append (v w : Word) : p.run h (v ++ w) = (p.run h v).run h w := List.foldl_append

theorem strokes_append (v w : Word) :
    p.strokes h f (v ++ w) = p.strokes h f v ++ (p.run h v).strokes h f w := by
  induction v generalizing p with
  | nil => rfl
  | cons s v ih => rw [List.cons_append, strokes, ih, strokes, run_cons, List.cons_append]

/-- The strokes of a word, each drawn by the pen that what stands before the symbol leaves. -/
theorem strokes_eq_map_sites (w : Word) :
    p.strokes h f w = w.sites.map fun q => (p.run h q.1).stroke h f q.2 := by
  induction w generalizing p with
  | nil => rfl
  | cons s w ih =>
    rw [strokes, ih, Word.sites, List.map_cons, List.map_map]
    rfl

theorem length_stroke (s : Symbol) : (p.stroke h f s).length = Layout.symbolVertices f s := by
  unfold stroke Layout.symbolVertices Layout.flowerVertices
  cases s.action with
  | branch => simp [Box.length_vertices_segment]
  | flower => simp
  | push | pop | turn | ignore => rfl

/-- Poses below those that a word reaches are still there after it. -/
theorem saved_run {d k : Nat} {w : Word} (counted : w.level d = some k)
    (enough : d ≤ p.saved.length) :
    k ≤ (p.run h w).saved.length ∧ (p.run h w).saved.drop k = p.saved.drop d := by
  induction w generalizing p d with
  | nil =>
    cases counted
    exact ⟨enough, rfl⟩
  | cons s w ih =>
    obtain ⟨e, first, rest⟩ := Word.level_cons_eq_some_iff.1 counted
    have here : e ≤ (p.step h s).saved.length ∧ (p.step h s).saved.drop e = p.saved.drop d := by
      unfold Symbol.level at first
      unfold step
      cases act : s.action with
      | push =>
        rw [act] at first
        cases first
        exact ⟨Nat.succ_le_succ enough, rfl⟩
      | pop =>
        simp only [act] at first
        split at first
        · cases first
        · next opened =>
          cases first
          obtain ⟨q, qs, saved⟩ := List.exists_cons_of_length_pos (l := p.saved) (by omega)
          rw [saved, List.length_cons] at enough
          obtain ⟨d, rfl⟩ := Nat.exists_eq_succ_of_ne_zero opened
          simp only [saved]
          exact ⟨Nat.le_of_succ_le_succ enough, rfl⟩
      | branch | turn | flower | ignore =>
        rw [act] at first
        cases first
        exact ⟨enough, rfl⟩
    obtain ⟨left, same⟩ := ih (p.step h s) rest here.1
    exact ⟨left, same.trans here.2⟩

/-- After a balanced word in brackets only the random source is another. -/
theorem run_bracket {v : Word} (balanced : v.Balanced) :
    ∃ source, p.run h (.push :: v ++ [.pop]) = { p with source } := by
  have inside := (saved_run h (p.step h .push) balanced (Nat.zero_le _)).2
  rw [List.drop_zero, List.drop_zero] at inside
  have saved : ((p.step h .push).run h v).saved = p.pose :: p.saved := inside
  refine ⟨((p.step h .push).run h v).source, ?_⟩
  rw [run_append, run_cons, run_cons, run_nil]
  generalize (p.step h .push).run h v = q at saved
  obtain ⟨_, _, _⟩ := q
  cases saved
  rfl

end Pen

/-! ### The pen of a canvas -/

namespace Canvas

open MeshBuilder

variable {σ : Type} {c : Canvas σ} {p : Pen σ}

/-- The turtle and the random source are those of the pen. -/
structure HasPen (c : Canvas σ) (p : Pen σ) : Prop where
  poses : c.turtle.poses = p.pose :: p.saved
  source : c.source = p.source

theorem hasPen_blank (source : σ) (j : Journal) : (blank source j).HasPen (.root source) :=
  ⟨rfl, rfl⟩

variable [RandomSource σ] {h : Habit} {f : Flower} {i : Nat}

/-- A step that succeeds moves the pen and appends its stroke. -/
theorem HasPen.step (pen : c.HasPen p) (s : Symbol) (ok : (c.step h f i s).failure = none) :
    (c.step h f i s).canvas.HasPen (p.step h s) ∧
      c.builder.Gains (p.stroke h f s) (c.step h f i s).canvas.builder := by
  obtain ⟨⟨poses⟩, builder, source, journal⟩ := c
  obtain ⟨pose, saved, _⟩ := p
  obtain ⟨same_poses, same_source⟩ := pen
  cases same_poses
  cases same_source
  unfold Pen.step Pen.stroke
  cases act : s.action with
  | push =>
    rw [step_push h f i act rfl]
    exact ⟨⟨rfl, rfl⟩, gains_nil _⟩
  | pop =>
    cases saved with
    | nil =>
      rw [step_pop_root h f i act (by simp [Turtle.depth])] at ok
      cases ok
    | cons q saved =>
      rw [step_pop h f i act rfl]
      exact ⟨⟨rfl, rfl⟩, gains_nil _⟩
  | branch =>
    rw [step_branch h f i act] at ok ⊢
    rw [failure_branch rfl] at ok
    rw [builder_branch rfl]
    refine ⟨?_, gains_append ok⟩
    rw [branch_eq rfl]
    split
    · next e => simp [e] at ok
    · exact ⟨rfl, rfl⟩
  | turn =>
    rw [step_turn h f i act, turn_eq rfl]
    exact ⟨⟨rfl, rfl⟩, gains_nil _⟩
  | flower =>
    rw [step_flower h f i act] at ok ⊢
    rw [failure_flower rfl] at ok
    rw [builder_flower rfl]
    refine ⟨?_, gains_append ok⟩
    rw [flower_eq rfl]
    split
    · exact ⟨rfl, rfl⟩
    · exact ⟨rfl, rfl⟩
  | ignore =>
    rw [step_ignore h f i act]
    exact ⟨⟨rfl, rfl⟩, gains_nil _⟩

theorem HasPen.walk (pen : c.HasPen p) {w : Word} (ok : (c.walk h f i w).failure = none) :
    (c.walk h f i w).canvas.HasPen (p.run h w) ∧
      c.builder.Gains (p.strokes h f w).flatten (c.walk h f i w).canvas.builder := by
  induction w generalizing c p i with
  | nil => exact ⟨pen, gains_nil _⟩
  | cons s w ih =>
    rw [walk_cons, Outcome.failure_andThen_eq_none_iff] at ok
    rw [walk_cons, Outcome.andThen_of_failure_eq_none ok.1]
    obtain ⟨moved, stroke⟩ := pen.step s ok.1
    obtain ⟨arrived, strokes⟩ := ih moved ok.2
    exact ⟨arrived, stroke.append strokes⟩

end Canvas

namespace Pen

open Layout

variable {σ : Type} [RandomSource σ] {f : Flower} {v w : Word}

/-- A pen has saved as many poses as branches are open. -/
theorem length_saved_run (free : firstOffence f v = none) (h : Habit)
    (source : σ) : ((root source).run h v).saved.length + v.tally .pop = v.tally .push := by
  have blank := Canvas.drawn_blank source (.start none) f
  have walked : ((Canvas.blank source (.start none)).walk h f 0 v).failure = none := by
    rw [Canvas.failure_walk_blank, free]
  have poses := ((Canvas.hasPen_blank source (.start none)).walk walked).1.poses
  have depth : ((Canvas.blank source (.start none)).walk h f 0 v).canvas.turtle.poses.length +
      v.tally .pop = v.tally .push + 1 := (blank.walk walked).depth
  rw [poses, List.length_cons] at depth
  omega

theorem saved_ne_nil_of_pop (free : firstOffence f (v ++ .pop :: w) = none) (h : Habit) (source : σ) :
    ((root source).run h v).saved ≠ [] := by
  intro none_saved
  rw [firstOffence_append, Option.or_eq_none_iff, Word.findSome?_sites_cons,
    Option.or_eq_none_iff] at free
  obtain ⟨before, closes, -⟩ := free
  have count := length_saved_run before h source
  rw [none_saved, List.length_nil, Nat.zero_add] at count
  have underflow : offence f v .pop = some (.stackUnderflow v.length 0) := if_pos count
  rw [underflow] at closes
  cases closes

end Pen

namespace Species

open Layout MeshBuilder

variable {σ : Type} [RandomSource σ] {sp : Species} {w : Word} {f : Flower} {source : σ}
  {j : Journal} {m : Mesh}

theorem source_build (sp : Species) (w : Word) (f : Flower) (source : σ) (j : Journal) :
    (sp.build w f source j).source =
      ((Canvas.blank source j).walk sp.habit f 0 w).canvas.source := by
  rw [build]
  split
  · next walked => rw [walked]
  · next walked =>
    rw [walked]
    split <;> rfl

/-- The mesh of a word is what a pen draws from the root, with the indices of the layout. -/
theorem mesh_build_eq_ok_iff :
    (sp.build w f source j).mesh = .ok m ↔
      obstacle f w = none ∧ m.indices.toList.map UInt32.toNat = indices f w ∧
        m.positions.toList =
          positionCoordinates ((Pen.root source).strokes sp.habit f w).flatten ∧
        m.normals.toList =
          normalCoordinates ((Pen.root source).strokes sp.habit f w).flatten := by
  have built := mesh_build_eq sp w f source j
  cases obstructed : obstacle f w with
  | some e =>
    rw [built, obstructed]
    simp
  | none =>
    rw [obstructed] at built
    have walked := (walk_of_mesh_build built).1
    have drawn := (Canvas.drawn_blank source j f).walk walked
    have gained := ((Canvas.hasPen_blank source j).walk walked).2
    rw [built, Except.ok.injEq]
    constructor
    · rintro rfl
      exact ⟨rfl, drawn.indices, gained.positions, gained.normals⟩
    · rintro ⟨-, indices, positions, normals⟩
      exact Mesh.eq_of_lists (drawn.indices.trans indices.symm)
        (gained.positions.trans positions.symm) (gained.normals.trans normals.symm)

/-- Drawing leaves of the random source what the pen leaves of it. -/
theorem source_build_of_ok (drawn : (sp.build w f source j).mesh = .ok m) :
    (sp.build w f source j).source = ((Pen.root source).run sp.habit w).source := by
  have walked := (walk_of_mesh_build drawn).1
  rw [source_build]
  exact ((Canvas.hasPen_blank source j).walk walked).1.source

end Species

end PlantGrammar
