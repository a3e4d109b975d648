/-!
# Directed graphs

A graph is a list of edges over a list of vertices. `Digraph.arrange` lists the vertices in an order
in which every vertex comes after the sources of its edges, as far as there is one: vertices on
cycles and behind them are left out. It counts how many edges still lead to each vertex. Vertices that
become free at the same time keep the order in which they are listed, and the targets of a vertex the
order of its edges. `Digraph.hasCycle` searches in depth for an edge that leads back.
-/
namespace Workflow.Digraph

variable {α : Type} [DecidableEq α]

/-- The members of a list without repetitions, each in its first place. -/
def firstPlaces (as : List α) : List α :=
  as.foldl (fun seen a => if a ∈ seen then seen else seen ++ [a]) []

/-- The targets of the edges of `v`, in order. -/
def targets (v : α) (edges : List (α × α)) : List α := (edges.filter (·.1 = v)).map (·.2)

/-- How many edges lead to a vertex. -/
def inDegree (edges : List (α × α)) (v : α) : Nat := edges.countP (·.2 = v)

/-- What is left of a graph while its vertices are taken away: how many edges still lead to each
vertex, and the free vertices, to which none does, in the order in which they will go. -/
structure Remainder (α : Type) where
  degree : α → Int
  free : List α

/-- Takes away an edge that leads to `b`. With the last one `b` becomes free. -/
def Remainder.release (r : Remainder α) (b : α) : Remainder α :=
  let left := r.degree b - 1
  ⟨fun a => if a = b then left else r.degree a, if left = 0 then r.free ++ [b] else r.free⟩

/-- Takes free vertices with their edges away one after the other, at most `fuel` of them. -/
def arrangeFrom (edges : List (α × α)) : Nat → Remainder α → List α
  | 0, _ => []
  | _, ⟨_, []⟩ => []
  | fuel + 1, ⟨degree, v :: free⟩ =>
    v :: arrangeFrom edges fuel ((targets v edges).foldl .release ⟨degree, free⟩)

/-- The vertices that do not lie behind a cycle, sources first. -/
def arrange (vertices : List α) (edges : List (α × α)) : List α :=
  arrangeFrom edges vertices.length
    ⟨fun v => inDegree edges v, vertices.filter (inDegree edges · = 0)⟩

/-! ## Cycles -/

/-- Goes on with a search in depth: `way` leads from where it began to the current vertex, which comes
first, each vertex with its targets that are still to be looked at. The result is what was visited
in the end, or nothing if an edge leads back to the way. There are at most `fuel` looks. -/
def search (edges : List (α × α)) : Nat → List α → List (α × List α) → Option (List α)
  | 0, visited, _ => some visited
  | _, visited, [] => some visited
  | fuel + 1, visited, (_, []) :: way => search edges fuel visited way
  | fuel + 1, visited, (v, w :: ws) :: way =>
    if w ∈ v :: way.map (·.1) then none
    else if w ∈ visited then search edges fuel visited ((v, ws) :: way)
    else search edges fuel (w :: visited) ((w, targets w edges) :: (v, ws) :: way)

/-- Whether a search from one of the roots meets an edge that leads back; from a root that was visited
before there is none. -/
def searchAll (edges : List (α × α)) (fuel : Nat) : List α → List α → Bool
  | [], _ => false
  | root :: roots, visited =>
    if root ∈ visited then searchAll edges fuel roots visited
    else
      match search edges fuel (root :: visited) [(root, targets root edges)] with
      | none => true
      | some visited => searchAll edges fuel roots visited

/-- The looks that a search takes at vertices: at each when it comes, at each of its targets, and when
it goes. -/
def looks (edges : List (α × α)) : List α → Nat
  | [] => 0
  | v :: vs => (targets v edges).length + 2 + looks edges vs

/-- Whether some vertex reaches itself. Every end of an edge is a vertex. -/
def hasCycle (vertices : List α) (edges : List (α × α)) : Bool :=
  let all := firstPlaces (vertices ++ edges.flatMap fun (a, b) => [a, b])
  searchAll edges (looks edges all) all []

end Workflow.Digraph
