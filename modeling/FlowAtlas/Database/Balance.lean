import FlowAtlas.Database.Free

/-!
# Balancing trees

A page that took in more cells than it has room for, or that is more than two thirds empty, shares
its cells with the pages beside it. `Edit.share` spreads the cells of up to three neighbours over as
few pages as hold them, of about equal weight, and puts the cells that divide these pages into the
page above. `Edit.settle` goes on with that page, and so up to the root, which gets a level below
it when it is too small, and takes the cells of its only child when it has none left.

Pages are changed in place as far as that goes, so that cells which stay on a page do not move.
-/

set_option autoImplicit false

namespace FlowAtlas
namespace Database

/-! ## Pages with too many cells -/

/-- A page with cells that found no room on it. -/
structure Node where
  number : Nat
  page : Page
  /-- Cells without room, by their numbers among all cells. They stand one behind another. -/
  extra : List (Nat × Bytes) := []
  deriving DecidableEq, Repr, Inhabited

namespace Node

/-- How many cells there are. -/
def count (n : Node) : Nat := n.page.count + n.extra.length

/-- Put a cell in before the one with the number `i`. -/
def insert (n : Node) (i : Nat) (cell : Bytes) : Attempt Node := do
  let page? ← if n.extra.isEmpty then n.page.insert? i cell else pure none
  match page? with
  | some page => return { n with page }
  | none => return { n with extra := n.extra ++ [(i, cell)] }

/-- The number that a cell has on the page. -/
def onPage (n : Node) (i : Nat) : Nat := i - (n.extra.filter (·.1 < i)).length

/-- A cell by its number among all. -/
def cellBytes (n : Node) (i : Nat) : Bytes :=
  match n.extra.find? (·.1 = i) with
  | some (_, cell) => cell
  | none => n.page.cellBytes (n.onPage i)

/-- The page below with the number `i`. -/
def child (n : Node) (i : Nat) : Nat :=
  if i < n.count then ofBigEndian ((n.cellBytes i).take 4) else n.page.lastChild

/-- Take out the cell with the number `i`. -/
def remove (n : Node) (i : Nat) : Attempt Node := do
  if n.extra.any (·.1 = i) then return { n with extra := n.extra.filter (·.1 ≠ i) }
  return { n with page := ← n.page.remove (n.onPage i) }

/-- Name another page below, for what comes before the cell with the number `i`. -/
def setChild (n : Node) (i child : Nat) : Node :=
  if i < n.page.count then { n with page := n.page.putWord (n.page.placeOf i) child }
  else { n with page := n.page.setLastChild child }

end Node

/-! ## Cells on the move -/

/-- A cell that is to be put on some page. -/
structure Slot where
  bytes : Bytes
  /-- The page where the cell stands, among its neighbours, and its place there. -/
  home : Option (Nat × Nat) := none
  deriving DecidableEq, Repr, Inhabited

/-- The cells of a node, which is the one with the number `k` among its neighbours. -/
def Node.slots (n : Node) (k : Nat) : List Slot :=
  let onPage := (List.range n.page.count).map fun i =>
    ({ bytes := n.page.cellBytes i, home := some (k, n.page.placeOf i) } : Slot)
  match n.extra with
  | [] => onPage
  | (i, _) :: _ => onPage.take i ++ n.extra.map ({ bytes := ·.2 }) ++ onPage.drop i

/-! ## Changing a page in place -/

namespace Page

/-- Give a cell back with others. Cells next to each other are given back as one, and no more than
ten at a time. -/
def collect (ranges : List (Nat × Nat)) (place stop : Nat) : List (Nat × Nat) :=
  match ranges.findIdx? fun (a, b) => a = stop || b = place with
  | some j => ranges.modify j fun (a, b) => if a = stop then (place, b) else (a, stop)
  | none => ranges ++ [(place, stop)]

/-- Give back several parts of the page, as far as they make sense. -/
def giveBackAll (p : Page) (ranges : List (Nat × Nat)) : Page :=
  ranges.foldl (fun p (a, b) => (p.giveBack a (b - a)).toOption.getD p) p

/-- Give back the cells among some that stand on this page, which is the one with the number `k`.
The answer tells how many these are. -/
def giveBackSlots (p : Page) (k : Nat) (slots : List Slot) : Page × Nat :=
  let step := fun ((p, ranges, n) : Page × List (Nat × Nat) × Nat) (s : Slot) =>
    match s.home with
    | none => (p, ranges, n)
    | some (home, place) =>
      if home ≠ k then (p, ranges, n)
      else
        let next := collect ranges place (place + s.bytes.length)
        if ranges.length = 10 && next.length = 11 then
          (p.giveBackAll ranges, [(place, place + s.bytes.length)], n + 1)
        else (p, next, n + 1)
  let (p, ranges, n) := slots.foldl step (p, [], 0)
  (p.giveBackAll ranges, n)

/-- Move part of the row of places. -/
def movePart (p : Page) (source target count : Nat) : Page :=
  p.copyWithin (p.places + 2 * source) (p.places + 2 * target) (2 * count)

/-- The page while cells are put on it, and where the cells start then. -/
abbrev Filling := OptionT (StateM (Page × Nat))

/-- Put cells on the page, their places from number `i` of the row of places on, which is to end at
`limit`. -/
def fill (limit : Nat) : (i : Nat) → List Slot → Filling Unit
  | _, [] => return ()
  | i, s :: rest => do
    let (p, top) ← get
    let size := s.bytes.length
    let (p, top, place) ←
      match p.takeBlock size with
      | .ok (some (p, place)) => pure (p, top, place)
      | _ => if top - limit < size then failure else pure (p, top - size, top - size)
    set ((p.put place s.bytes).putHalf (p.places + 2 * i) place, top)
    fill limit (i + 1) rest

/-- Put all cells anew, the first one at the end of the page. -/
def rebuild (p : Page) (slots : List Slot) : Page :=
  let (q, top, _) := slots.foldl (fun (q, top, i) s =>
    let top := top - s.bytes.length
    ((q.putHalf (p.places + 2 * i) top).put top s.bytes, top, i + 1)) (p, p.usable, 0)
  ((((q.put (p.start + 1) [0, 0]).setCount slots.length).setTop top).putByte (p.start + 7) 0)

/-- Put cells that had no room on the page, where the page holds the cells from `first` on. -/
def fillExtra (limit first count : Nat) (slots : Array Slot) :
    (onPage : Nat) → List (Nat × Bytes) → Filling Nat
  | onPage, [] => return onPage
  | onPage, (i, _) :: rest => do
    if first ≤ i && i - first < count then
      let j := i - first
      if j < onPage then modify fun (p, top) => (p.movePart j (j + 1) (onPage - j), top)
      fill limit j (slots.extract i (i + 1)).toList
      fillExtra limit first count slots (onPage + 1) rest
    else fillExtra limit first count slots onPage rest

/-- Let the page hold `count` of some cells from number `first` on, when it held those from number
`old` on. The page is the one with the number `k` among its neighbours. -/
def refill (p : Page) (k : Nat) (extra : List (Nat × Bytes)) (slots : Array Slot)
    (old first count : Nat) : Page :=
  let part := fun a b => (slots.extract a b).toList
  let oldStop := old + p.count + extra.length
  let stop := first + count
  let limit := p.places + 2 * count
  let onPage := p.count
  let (p, onPage) :=
    if old < first then
      let (p, n) := p.giveBackSlots k (part old first)
      (p.movePart n 0 onPage, onPage - n)
    else (p, onPage)
  let (p, onPage) :=
    if stop < oldStop then
      let (p, n) := p.giveBackSlots k (part stop oldStop)
      (p, onPage - n)
    else (p, onPage)
  let filling : Filling Unit := do
    if p.half (p.start + 5) < limit then failure
    let added := min count (old - first)
    if first < old then
      modify fun (p, top) => (p.movePart 0 added onPage, top)
      fill limit 0 (part first (first + added))
    let extra := extra.map fun (i, c) => (old + i, c)
    let onPage ← fillExtra limit first count slots (if first < old then onPage + added else onPage)
      extra
    fill limit onPage (part (first + onPage) stop)
  let (done, p, top) := filling.run.run (p, p.half (p.start + 5))
  if done.isSome then (p.setCount count).setTop top else p.rebuild (part first stop)

end Page

/-! ## Dividing cells among pages -/

/-- How cells are divided among pages: for each page the number of the first cell that is not on it
or before it, and the bytes that the cells on it fill. -/
abbrev Division := List (Nat × Int)

/-- How many of some cells fit into so many bytes, and how many bytes they fill. -/
def fitting (space : Nat) : List Slot → Nat × Nat
  | [] => (0, 0)
  | s :: rest =>
    let size := s.bytes.length + 2
    if space < size then (0, 0)
    else
      let (n, filled) := fitting (space - size) rest
      (n + 1, filled + size)

/-- Divide the cells from number `i` on, each page as full as can be. A divider stays out of the
pages if `skip` is one. -/
def packed (space skip : Nat) (slots : Array Slot) : (fuel i : Nat) → Division
  | 0, _ => []
  | fuel + 1, i =>
    let (n, filled) := fitting space (slots.extract i slots.size).toList
    let stop := i + n
    (stop, (filled : Int)) :: if slots.size ≤ stop then [] else
      packed space skip slots fuel (stop + skip)

/-- Move cells from a page that ends before cell `stop` to the next one, until that would be the
heavier one. -/
def lean (slots : Array Slot) (skip : Nat) (isBulk isLast : Bool) :
    (fuel stop : Nat) → (left right : Int) → Nat × Int × Int
  | 0, stop, left, right => (stop, left, right)
  | fuel + 1, stop, left, right =>
    if stop = 0 then (stop, left, right)
    else
      let size := fun i => (((slots.getD i default).bytes.length : Nat) : Int)
      let r := size (stop - 1)
      let s := size (stop - 1 + skip)
      if right ≠ 0 && (isBulk || left - (r + if isLast then 0 else 2) < right + s + 2) then
        (stop, left, right)
      else lean slots skip isBulk isLast fuel (stop - 1) (left - (r + 2)) (right + s + 2)

/-- Even out a division, from the last page to the first. -/
def evened (slots : Array Slot) (skip : Nat) (isBulk : Bool) (d : Division) : Division :=
  let step := fun ((stop, left) : Nat × Int) ((later, isLast) : Division × Bool) =>
    match later with
    | [] => ([(stop, left)], true)
    | (next, right) :: rest =>
      let (stop, left, right) := lean slots skip isBulk isLast slots.size stop left right
      ((stop, left) :: (next, right) :: rest, false)
  (d.foldr step ([], true)).1

/-! ## Sharing cells with neighbours -/

/-- What the neighbours hold in all: their cells in order, and between them the cells that divide
them, unless these only repeat numbers of rows. Also the number of the first cell behind each. -/
def gathered (nodes : List Node) (dividers : List Bytes) : Array Slot × Array Nat :=
  let isData := nodes.head?.any (·.page.kind = .tableLeaf)
  let step := fun ((slots, stops) : Array Slot × Array Nat) ((n, k) : Node × Nat) =>
    let slots := slots ++ (n.slots k).toArray
    let stops := stops.push slots.size
    match dividers[k]? with
    | none => (slots, stops)
    | some divider =>
      if isData then (slots, stops)
      else if n.page.kind.isLeaf then
        let cell := divider.drop 4
        (slots.push { bytes := cell ++ List.replicate (4 - cell.length) 0 }, stops)
      else (slots.push { bytes := bigEndian 4 n.page.lastChild ++ divider.drop 4 }, stops)
  nodes.zipIdx.foldl step (#[], #[])

namespace Edit

/-- The nodes of pages, where one is under way. -/
def nodes (changed : Node) (numbers : List Nat) : Edit (List Node) :=
  numbers.mapM fun n => do
    if n = changed.number then return changed
    return { number := n, page := ← page n }

/-- Numbers for as many pages as a division has, of which some are there. -/
def numbersFor (old : List Nat) (size : Nat) : Edit (List Nat) := do
  let mut numbers := old.take size
  let mut near := old.headD 0
  for _ in List.range (size - old.length) do
    near ← allocate near
    numbers := numbers ++ [near]
  return numbers

/-- The order in which pages can be changed without losing cells that are yet to move: first, from
the last page on, those that get no cell from the page before, and then the others. -/
def changeOrder (stops : Array Nat) (d : Division) : List Nat :=
  let indices := List.range d.length
  let isFree := fun i => i ≠ 0 &&
    (d.getD (i - 1) default).1 ≤ stops.getD (i - 1) (stops.back?.getD 0)
  let down := indices.reverse.filter isFree
  down ++ indices.filter fun i => !isFree i

/-- The cell above that divides a page from the next one, where the next cell is the one with the
number `stop`. -/
def dividerOf (number : Nat) (kind : PageKind) (slots : Array Slot) (stop : Nat) : Bytes :=
  let cell := fun i => (slots.getD i default).bytes
  bigEndian 4 number ++
    match kind with
    | .tableLeaf =>
      let last := (cell (stop - 1)).toArray
      Varint.encode (unsigned 8 (Page.cellOf 65536 .tableLeaf fun i => (last.getD i 0).toNat).row)
    | .indexLeaf => cell stop
    | _ => (cell stop).drop 4

/-- Let a page below another one share its cells with its neighbours. The answer is the page above,
which may have got too many cells. -/
def share (above : Node) (i : Nat) (changed : Node) (isRoot isBulk : Bool) : Edit Node := do
  let bulk := if isBulk then 1 else 0
  let count := above.count
  let span := if count < 2 then count else 2 - bulk
  let first := if count < 2 || i = 0 then 0 else if i = count then count - 2 + bulk else i - 1
  let old ← nodes changed ((List.range (span + 1)).map fun j => above.child (first + j))
  let dividers := (List.range span).map fun j => above.cellBytes (first + j)
  let above ← ((List.range span).reverse.foldlM (fun n j => n.remove (first + j)) above :
    Attempt Node)
  let kind := (old.headD default).page.kind
  if old.any (·.page.kind ≠ kind) then throw .malformed
  for n in old do
    let _ ← (n.page.free : Attempt Nat)
  let skip := if kind = .tableLeaf then 0 else 1
  let space := changed.page.usable - if kind.isLeaf then 8 else 12
  let (slots, stops) := gathered old dividers
  let division := evened slots skip isBulk (packed space skip slots 6 0)
  if 5 < division.length then throw .malformed
  let numbers ← numbersFor (old.map (·.number)) division.length
  let sorted := numbers.mergeSort
  let lastChild := (old.getLast?.getD default).page.lastChild
  let d ← get
  let blank := d.blank.clear kind
  let starts := division.zipIdx.map fun (_, k) =>
    if k = 0 then 0 else (division.getD (k - 1) default).1 + skip
  let above := above.setChild (above.onPage first) (sorted.getLast?.getD 0)
  let mut pages : List Page := []
  let mut parent := above
  for ((stop, _), k) in division.zipIdx do
    let page := (old[k]?).elim ((d.page (numbers.getD k 0)).clear kind) (·.page)
    let isLast := k + 1 = division.length
    let page :=
      if kind.isLeaf then page
      else if isLast then if old.length = division.length then page else page.setLastChild lastChild
      else page.setLastChild (ofBigEndian ((slots.getD stop default).bytes.take 4))
    if !isLast then
      parent ← parent.insert (first + k) (dividerOf (sorted.getD k 0) kind slots stop)
    pages := pages ++ [page]
  for k in changeOrder stops division do
    let start := starts.getD k 0
    let stop := (division.getD k default).1
    let oldStart := if k = 0 then 0 else if k < old.length then stops.getD (k - 1) 0 + skip
      else slots.size
    let extra := (old[k]?).elim [] (·.extra)
    let page := (pages.getD k blank).refill k extra slots oldStart start (stop - start)
    pages := pages.set k page
    setTreePage (sorted.getD k 0) page
  let only := pages.headD blank
  let left ← (only.free : Attempt Nat)
  if isRoot && parent.page.count = 0 && parent.extra.isEmpty && parent.page.start ≤ left then
    let only ← (only.pack left (-1) : Attempt Page)
    setTreePage (sorted.headD 0) only
    let top := only.top
    let page := (parent.page.put top (only.slice top (only.usable - top))).put parent.page.start
      (only.slice only.start only.placesEnd)
    parent := { parent with page }
    setTreePage parent.number parent.page
    release (sorted.headD 0)
  setTreePage parent.number parent.page
  for n in old.drop division.length do
    setPage n.number n.page
    release n.number
  return parent

/-! ## Going up -/

/-- Give the last leaf of a table a new neighbour that takes its one cell without room. The answer
is the page above, whose last page is the leaf. -/
def extend (above leaf : Node) (cell : Bytes) : Edit Node := do
  let number ← allocate 0
  let page := ((← get).page number).clear .tableLeaf
  setTreePage number (page.rebuild [{ bytes := cell }])
  setTreePage leaf.number leaf.page
  let row := unsigned 8 (leaf.page.cell (leaf.page.count - 1)).row
  let above ← above.insert above.page.count (bigEndian 4 leaf.number ++ Varint.encode row)
  return { above with page := above.page.setLastChild number }

/-- Put a new page below a root that holds all its cells. -/
def deepen (root : Node) : Edit (Node × Node) := do
  let number ← allocate root.number
  let p := root.page
  let below := (← get).page number
  let page := (below.put p.top (p.slice p.top (p.usable - p.top))).put 0
    (p.slice p.start p.placesEnd)
  let above := (p.clear p.kind.above).setLastChild number
  return ({ root with page := above, extra := [] }, { number, page, extra := root.extra })

/-- Put a changed page in place and restore the balance of its tree. The pages above are given from
the nearest on, each with the number of the way down. The answer is how many of them were left
alone. -/
def settle (isBulk : Bool) : (fuel : Nat) → (path : List (Node × Nat)) → Node → Edit Nat
  | 0, _, _ => throw .malformed
  | fuel + 1, path, n => do
    if n.extra.isEmpty && (← (n.page.free : Attempt Nat)) * 3 ≤ n.page.usable * 2 then
      setTreePage n.number n.page
      return path.length
    match path with
    | [] =>
      if n.extra.isEmpty then
        setTreePage n.number n.page
        return 0
      let (root, below) ← deepen n
      settle isBulk fuel [(root, 0)] below
    | (above, i) :: path =>
      let isLast := n.page.kind = .tableLeaf && above.number ≠ 1 && above.page.count = i
      match n.extra with
      | [(j, cell)] =>
        if isLast && j = n.page.count then settle isBulk fuel path (← extend above n cell)
        else settle isBulk fuel path (← share above i n path.isEmpty isBulk)
      | _ => settle isBulk fuel path (← share above i n path.isEmpty isBulk)

end Edit
end Database
end FlowAtlas
