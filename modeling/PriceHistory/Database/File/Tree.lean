import PriceHistory.Database.File.Header

/-!
The trees in which a file keeps the rows of its tables. A leaf holds rows, and an inner page names
the pages below it. A row too long for its page goes on in other pages.
-/
namespace PriceHistory.Database.File

variable (file : File)

/-- The deepest way from a root to a leaf, in pages. -/
def depthLimit : Nat := 20

/-- The byte that marks a leaf of a table. -/
def leafMark : Nat := 13

/-- The byte that marks an inner page of a table. -/
def innerMark : Nat := 5

/-- Where a page starts. -/
def start (page : Nat) : Nat := (page - 1) * file.pageSize

/-- Where the head of a page starts: on the first page, the header of the file comes before it. -/
def head (page : Nat) : Nat :=
  if page = 1 then headerSize else file.start page

/-- A page of a tree, with the places of its rows or the pages below it. -/
inductive Node where
  | leaf (rows : List Nat)
  | inner (children : List Nat) (last : Nat)
  deriving DecidableEq

/-- The places of the cells of a page, whose pointers start at `first`. -/
def cells (page first count : Nat) : List Nat :=
  (List.range count).map fun i =>
    file.start page + file.image.number (first + 2 * i) 2 % file.pageSize

/-- Reads a page of a tree. -/
def node? (page : Nat) : Except FileFault Node :=
  let head := file.head page
  let count := file.image.number (head + 3) 2
  let kind := file.image.byte head
  if page = 0 ∨ file.pageCount < page ∨ (file.pageSize - 8) / 6 < count then .error .malformed
  else if kind = leafMark then .ok (.leaf (file.cells page (head + 8) count))
  else if kind = innerMark then
    .ok (.inner ((file.cells page (head + 12) count).map fun cell => file.image.number cell 4)
      (file.image.number (head + 8) 4))
  else .error .malformed

/-- How many bytes of a row lie on its page, of `limit` at most. -/
def localSize (usable limit size : Nat) : Nat :=
  let least := (usable - 12) * 32 / 255 - 23
  let kept := least + (size - least) % (usable - 4)
  if size ≤ limit then size else if kept ≤ limit then kept else least

/-- The most bytes of a row that lie on a leaf of a table. -/
def leafLimit (usable : Nat) : Nat := usable - 35

/-- So many bytes from a chain of pages, in which no page can come twice. -/
def chain? : (pages : Nat) → (page size : Nat) → Except FileFault (List UInt8)
  | _, _, 0 => .ok []
  | 0, _, _ => .error .malformed
  | pages + 1, page, size => do
    if page = 0 ∨ file.pageCount < page then throw .malformed
    let here := min size (file.usable - 4)
    let rest ← chain? pages (file.image.number (file.start page) 4) (size - here)
    return file.image.part (file.start page + 4) here ++ rest

/-- The row in a cell of a leaf. A row of no bytes counts only where a zero follows, which stands for
a header of no length. -/
def row? (page cell : Nat) : Except FileFault Image := do
  let (size, place) := file.image.packed cell
  let (_, place) := file.image.packed place
  let here := localSize file.usable (leafLimit file.usable) size
  if file.start page + file.pageSize < place + here then throw .malformed
  if size = 0 ∧ file.image.byte place ≠ 0 then throw .malformed
  let rest ← file.chain? file.pageCount (file.image.number (place + here) 4) (size - here)
  return ⟨(file.image.part place here ++ rest).toArray⟩

variable {σ : Type} (take : σ → Image → Except FileFault σ)

/-- Takes the rows of a leaf in turn. -/
def takeRows (page : Nat) (rows : List Nat) (state : σ) : Except FileFault σ :=
  rows.foldlM (fun state cell => do take state (← file.row? page cell)) state

/-- Takes the rows below a page that is not a root, and so is not empty. -/
def takeBelow : (depth : Nat) → (page : Nat) → σ → Except FileFault σ
  | 0, _, _ => .error .malformed
  | depth + 1, page, state => do
    match ← file.node? page with
    | .leaf [] | .inner [] _ => throw .malformed
    | .leaf rows => file.takeRows take page rows state
    | .inner children last =>
      (children ++ [last]).foldlM (fun state child => takeBelow depth child state) state

/-- Takes the rows of a tree in their order, from its root. On the first page alone an inner root may
hold nothing but its last way down. -/
def takeTree (root : Nat) (state : σ) : Except FileFault σ := do
  match ← file.node? root with
  | .leaf rows => file.takeRows take root rows state
  | .inner children last =>
    if children = [] ∧ root ≠ 1 then throw .malformed
    (children ++ [last]).foldlM
      (fun state child => file.takeBelow take (depthLimit - 1) child state) state

/-- The free bytes that a page lists in its free blocks, from one of them on. Each block starts
beyond the end of the one before it. -/
def freeBlocks? (base : Nat) : (fuel : Nat) → (block : Nat) → Option Nat
  | 0, _ => none
  | fuel + 1, block =>
    let next := file.image.number (base + block) 2
    let size := file.image.number (base + block + 2) 2
    if file.usable - 4 < block then none
    else if block + size + 3 < next then
      (freeBlocks? base fuel next).map (size + ·)
    else if next = 0 ∧ block + size ≤ file.usable then some size
    else none

/-- The bytes that a page has free by the account it keeps of them, if the account adds up. -/
def space? (page : Nat) : Option Nat :=
  let head := file.head page
  let within := head - file.start page
  let top := file.image.number (head + 5) 2
  let top := if top = 0 then 65536 else top
  let first := within + 8 + (if file.image.byte head = innerMark then 4 else 0) +
    2 * file.image.number (head + 3) 2
  let block := file.image.number (head + 1) 2
  let blocks? :=
    if block = 0 then some 0 else if block < top then none
    else file.freeBlocks? (file.start page) file.usable block
  ((blocks?.map fun free => free + top + file.image.byte (head + 7)).filter fun free =>
    first ≤ free ∧ free ≤ file.usable).map fun free => free - first

/-- The bytes that an empty first page needs free for the entries of the price table. Where pages are
short, some of the entries go to another page; in UTF-16 they are long, and lie mostly elsewhere. -/
def neededSpace : Nat :=
  if file.encoding ≠ .utf8 then 0
  else if file.usable < 885 then 305
  else if file.usable < 1080 then 374
  else 500

/-- Can entries be added to the schema? -/
def takesEntries : Bool :=
  let head := file.head 1
  let isEmptyLeaf := file.image.byte head == leafMark && file.image.number (head + 3) 2 == 0
  match file.space? 1 with
  | some free => !isEmptyLeaf || file.neededSpace ≤ free
  | none => false

/-- The number of pages that are not in use. -/
def sparePages : Nat := file.image.number 36 4

/-- Are the pages that are not in use listed from a page on? -/
def hasSoundSpares : Bool :=
  let first := file.image.number 32 4
  file.sparePages == 0 || file.sparePages < file.pageCount && 2 ≤ first && first ≤ file.pageCount

/-- The last page on which a tree starts, in a file that gives up its unused pages; else zero. -/
def largestRoot : Nat := file.image.number 52 4

/-- Can pages and entries of the schema be added? -/
def canGrow : Bool :=
  file.hasSoundSpares && file.largestRoot ≤ file.pageCount && file.takesEntries

/-- Is a page one of those that tell for the pages after them where each is named? -/
def isMapPage (page : Nat) : Bool := 2 ≤ page && (page - 2) % (file.usable / 5 + 1) == 0

/-- Can a change be ended? A file that gives up its unused pages at the end of each change has none
of them left, and does not end with a page that tells of others. -/
def canCommit : Bool :=
  file.largestRoot == 0 || file.image.number 64 4 != 0 ||
    file.sparePages == 0 && !file.isMapPage file.pageCount

end PriceHistory.Database.File
