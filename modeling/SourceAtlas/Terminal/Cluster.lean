import SourceAtlas.Terminal.Width

/-!
# Clusters

Characters that stand in one place of a terminal, such as a letter with its accents or the parts of
a joined picture, are not parted where a line is cut. Main functions: `clusters`, which loses
nothing (`flatten_clusters`), `fit`, which gives a text an exact number of columns (`columns_fit`),
and `chop`, which cuts a text into lines (`flatten_chop`).
-/

namespace SourceAtlas.Terminal

/-- Characters in one place, with the columns that they take. -/
structure Cluster where
  text : List Char
  columns : Nat
  deriving DecidableEq, Repr

namespace Cluster

/-- The cluster that a character opens. -/
def ofChar (c : Char) : Cluster := ⟨[c], charColumns c⟩

/-- The cluster with one more character and some columns more. -/
def push (k : Cluster) (c : Char) (more : Nat) : Cluster :=
  ⟨k.text ++ [c], k.columns + more⟩

end Cluster

/-- The clusters of a text, of which the first one has been read in part. `last` is the character
    that a selector would change. A character after a joiner belongs to the cluster before it. -/
def clustersFrom (start : Cluster) (last : Option Char) : (isJoined : Bool) → List Char →
    List Cluster
  | _, [] => [start]
  | true, c :: rest => clustersFrom (start.push c 0) last false rest
  | false, c :: rest =>
    if isJoiner c then clustersFrom (start.push c 0) last true rest
    else if isSelector c then
      clustersFrom (start.push c (addedColumns last))
        (if last.any isWidened then none else last) false rest
    else if charColumns c = 0 then clustersFrom (start.push c 0) last false rest
    else start :: clustersFrom (.ofChar c) (some c) false rest

/-- The character that a selector would change after a character that opens a text. -/
def changeable? (c : Char) : Option Char := if charColumns c = 0 then none else some c

/-- The clusters of a text. -/
def clusters : List Char → List Cluster
  | [] => []
  | c :: rest => clustersFrom (.ofChar c) (changeable? c) false rest

/-- Clusters in an exact number of columns: what does not fit is cut off, and what is missing is
    filled with blanks. -/
def crop : (width : Nat) → List Cluster → List Char
  | width, [] => blanks width
  | width, k :: rest =>
    if k.columns ≤ width then k.text ++ crop (width - k.columns) rest else blanks width

/-- The text in an exact number of columns. -/
def fit (width : Nat) (cs : List Char) : List Char :=
  if width = 0 then []
  else if columns cs ≤ width then padTo width cs
  else crop width (clusters cs)

/-- Puts characters in front of the first of several lines. -/
def prependFirst (cs : List Char) : List (List Char) → List (List Char)
  | [] => [cs]
  | line :: rest => (cs ++ line) :: rest

/-- Clusters in lines of some columns, of which `used` are taken on the first line. -/
def chopFrom (width : Nat) : (used : Nat) → List Cluster → List (List Char)
  | _, [] => [[]]
  | used, k :: rest =>
    if used + k.columns ≤ width then prependFirst k.text (chopFrom width (used + k.columns) rest)
    else [] :: prependFirst k.text (chopFrom width k.columns rest)

/-- A text in lines of some columns. -/
def chop (width : Nat) (cs : List Char) : List (List Char) :=
  chopFrom width 0 (clusters cs)

theorem flatten_clustersFrom (k : Cluster) (last : Option Char) (isJoined : Bool)
    (cs : List Char) : (clustersFrom k last isJoined cs).flatMap (·.text) = k.text ++ cs := by
  fun_induction clustersFrom k last isJoined cs <;> simp_all [Cluster.push, Cluster.ofChar]

/-- The clusters of a text are all of it. -/
theorem flatten_clusters (cs : List Char) : (clusters cs).flatMap (·.text) = cs := by
  cases cs with
  | nil => rfl
  | cons c rest => simp [clusters, flatten_clustersFrom, Cluster.ofChar]

theorem flatten_prependFirst (cs : List Char) (lines : List (List Char)) :
    (prependFirst cs lines).flatten = cs ++ lines.flatten := by
  cases lines <;> simp [prependFirst]

theorem flatten_chopFrom (width used : Nat) (ks : List Cluster) :
    (chopFrom width used ks).flatten = ks.flatMap (·.text) := by
  fun_induction chopFrom width used ks <;> simp_all [flatten_prependFirst]

/-- Cutting a text into lines loses nothing. -/
theorem flatten_chop (width : Nat) (cs : List Char) : (chop width cs).flatten = cs := by
  rw [chop, flatten_chopFrom, flatten_clusters]

/-- A cluster of ordinary characters with their columns. -/
def Cluster.IsOrdinary (k : Cluster) : Prop :=
  (∀ c ∈ k.text, isOrdinary c = true) ∧ k.columns = total (k.text.map charColumns)

theorem Cluster.isOrdinary_push {k : Cluster} {c : Char} (h : k.IsOrdinary)
    (hc : isOrdinary c = true) (h0 : charColumns c = 0) : (k.push c 0).IsOrdinary := by
  refine ⟨fun d hd => ?_, ?_⟩
  · rcases List.mem_append.1 hd with hd | hd
    · exact h.1 d hd
    · rw [List.mem_singleton.1 hd, hc]
  · simp [Cluster.push, h.2, total_append, h0]

theorem isOrdinary_clustersFrom {k : Cluster} (last : Option Char) {cs : List Char}
    (hk : k.IsOrdinary) (h : ∀ c ∈ cs, isOrdinary c = true) :
    ∀ x ∈ clustersFrom k last false cs, x.IsOrdinary := by
  induction cs generalizing k last with
  | nil =>
    intro x hx
    rw [clustersFrom, List.mem_singleton] at hx
    exact hx ▸ hk
  | cons c rest ih =>
    have hc := h c (by simp)
    have hr (d : Char) (hd : d ∈ rest) : isOrdinary d = true := h d (by simp [hd])
    have hp : isJoiner c = false ∧ isSelector c = false := by simpa [isOrdinary] using hc
    rw [clustersFrom, hp.1, hp.2]
    by_cases h0 : charColumns c = 0
    · simpa [h0] using ih last (Cluster.isOrdinary_push hk hc h0) hr
    · have ho : (Cluster.ofChar c).IsOrdinary := ⟨by simpa [Cluster.ofChar] using hc, rfl⟩
      intro x hx
      rcases List.mem_cons.1 (by simpa [h0] using hx) with rfl | hx
      · exact hk
      · exact ih (some c) ho hr x hx

theorem isOrdinary_clusters {cs : List Char} (h : ∀ c ∈ cs, isOrdinary c = true) :
    ∀ x ∈ clusters cs, x.IsOrdinary := by
  cases cs with
  | nil => simp [clusters]
  | cons c rest =>
    have ho : (Cluster.ofChar c).IsOrdinary := ⟨by simpa [Cluster.ofChar] using h c (by simp), rfl⟩
    exact isOrdinary_clustersFrom _ ho fun d hd => h d (by simp [hd])

theorem isOrdinary_crop {width : Nat} {ks : List Cluster} (h : ∀ k ∈ ks, k.IsOrdinary) :
    ∀ c ∈ crop width ks, isOrdinary c = true := by
  induction ks generalizing width with
  | nil => exact fun _ => isOrdinary_of_mem_blanks
  | cons k rest ih =>
    intro c hc
    rw [crop] at hc
    split at hc
    · rcases List.mem_append.1 hc with hc | hc
      · exact (h k (by simp)).1 c hc
      · exact ih (fun x hx => h x (by simp [hx])) c hc
    · exact isOrdinary_of_mem_blanks hc

theorem sum_crop (width : Nat) {ks : List Cluster} (h : ∀ k ∈ ks, k.IsOrdinary) :
    total ((crop width ks).map charColumns) = width := by
  induction ks generalizing width with
  | nil => exact sum_blanks width
  | cons k rest ih =>
    rw [crop]
    split
    · next hk =>
      rw [List.map_append, total_append, ih _ fun x hx => h x (by simp [hx]),
        ← (h k (by simp)).2]
      omega
    · exact sum_blanks width

theorem columns_padTo {width : Nat} {cs : List Char} (h : ∀ c ∈ cs, isOrdinary c = true)
    (hw : columns cs ≤ width) : columns (padTo width cs) = width := by
  have hp : ∀ c ∈ padTo width cs, isOrdinary c = true := fun c hc =>
    (List.mem_append.1 hc).elim (h c) isOrdinary_of_mem_blanks
  rw [columns_eq_sum hp, padTo, List.map_append, total_append, sum_blanks, ← columns_eq_sum h]
  omega

/-- A fitted text of ordinary characters has the wanted number of columns. -/
theorem columns_fit (width : Nat) {cs : List Char} (h : ∀ c ∈ cs, isOrdinary c = true) :
    columns (fit width cs) = width := by
  rw [fit]
  split
  · next h0 => exact h0 ▸ rfl
  · split
    · next hw => exact columns_padTo h hw
    · have hk := isOrdinary_clusters h
      rw [columns_eq_sum (isOrdinary_crop hk), sum_crop width hk]

end SourceAtlas.Terminal
