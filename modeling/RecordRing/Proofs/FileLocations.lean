import RecordRing.Process.FileTree

set_option autoImplicit false

namespace RecordRing

namespace FileNode

def holdsDirectory (node : FileNode) (location : List String) : Bool :=
  match node.at? location with
  | some (directory _) => true
  | _ => false

/-- Nothing but directories stands in the way to the location. -/
def Takes (node : FileNode) : List String → Prop
  | [] => True
  | name :: rest =>
      node.holdsDirectory [] = true ∧ ∀ child, node.child? name = some child → child.Takes rest

variable {node child : FileNode} {location other : List String} {name : String}

theorem at?_cons (node : FileNode) (name : String) (rest : List String) :
    node.at? (name :: rest) = (node.child? name).bind fun child => child.at? rest := rfl

theorem holdsDirectory_cons (node : FileNode) (name : String) (rest : List String) :
    node.holdsDirectory (name :: rest) =
      ((node.child? name).map fun child => child.holdsDirectory rest).getD false := by
  rw [holdsDirectory, at?_cons]
  cases node.child? name <;> rfl

theorem eq_directory (holds : node.holdsDirectory [] = true) : ∃ entries, node = directory entries := by
  cases node with
  | directory entries => exact ⟨entries, rfl⟩
  | file bytes executable => cases holds
  | nullDevice => cases holds

theorem directory_of_child? (found : node.child? name = some child) :
    node.holdsDirectory [] = true := by
  cases node with
  | directory entries => rfl
  | file bytes executable => cases found
  | nullDevice => cases found

/-- The entry that something was put under, or in. -/
theorem child?_put_self (holds : node.holdsDirectory [] = true) (name : String) (rest : List String) :
    (node.put child (name :: rest)).child? name =
      some (((node.child? name).getD (directory [])).put child rest) := by
  obtain ⟨entries, rfl⟩ := eq_directory holds
  simp only [put, child?, List.find?_cons, beq_self_eq_true, Option.map_some]

/-- The other entries stay. -/
theorem child?_put_ne (holds : node.holdsDirectory [] = true) {name another : String}
    (rest : List String) (distinct : another ≠ name) :
    (node.put child (name :: rest)).child? another = node.child? another := by
  obtain ⟨entries, rfl⟩ := eq_directory holds
  have first : (name == another) = false := beq_eq_false_iff_ne.mpr distinct.symm
  simp only [put, child?, List.find?_cons, first, List.find?_filter]
  congr 2
  funext entry
  by_cases found : entry.1 = another
  · simp [found, distinct]
  · simp [found]

theorem put_of_not_directory (plain : node.holdsDirectory [] = false) (name : String)
    (rest : List String) : node.put child (name :: rest) = node := by
  cases node with
  | directory entries => cases plain
  | file bytes executable => rfl
  | nullDevice => rfl

theorem holdsDirectory_put_nil (node child : FileNode) (name : String) (rest : List String) :
    (node.put child (name :: rest)).holdsDirectory [] = node.holdsDirectory [] := by
  cases node <;> rfl

theorem takes_empty (location : List String) : (directory []).Takes location := by
  cases location with
  | nil => trivial
  | cons name rest => exact ⟨rfl, nofun⟩

/-- Where a file can be put, it is found. -/
theorem at?_put_self (takes : node.Takes location) :
    (node.put child location).at? location = some child := by
  induction location generalizing node with
  | nil => rfl
  | cons name rest ih =>
      obtain ⟨holds, inside⟩ := takes
      rw [at?_cons, child?_put_self holds, Option.bind_some]
      apply ih
      cases found : node.child? name with
      | none => exact takes_empty rest
      | some held => exact inside held found

/-- Directories stay where they are. -/
theorem holdsDirectory_put (free : node.holdsDirectory location = false)
    (holds : node.holdsDirectory other = true) :
    (node.put child location).holdsDirectory other = true := by
  -- Both locations are walked at once, until they part or one of them ends.
  induction location generalizing node other with
  | nil =>
      cases other with
      | nil =>
          rw [free] at holds
          cases holds
      | cons name rest =>
          rw [holdsDirectory_cons] at holds
          cases found : node.child? name with
          | none =>
              rw [found] at holds
              cases holds
          | some held =>
              rw [directory_of_child? found] at free
              cases free
  | cons name rest ih =>
      by_cases directory : node.holdsDirectory [] = true
      · cases other with
        | nil => rwa [holdsDirectory_put_nil]
        | cons another later =>
            by_cases same : another = name
            · subst same
              rw [holdsDirectory_cons] at holds free ⊢
              rw [child?_put_self directory]
              cases found : node.child? another with
              | none =>
                  rw [found] at holds
                  cases holds
              | some held =>
                  rw [found] at holds free
                  exact ih free holds
            · rw [holdsDirectory_cons, child?_put_ne directory rest same, ← holdsDirectory_cons]
              exact holds
      · rw [put_of_not_directory (Bool.not_eq_true _ ▸ directory)]
        exact holds

/-- What stands in the place of a file makes no way to anything new. -/
theorem takes_put {bytes written : Buffer} {executable : Bool} (takes : node.Takes location)
    (there : node.at? other = some (file bytes executable)) :
    (node.put (file written false) other).Takes location ∧
      (node.holdsDirectory location = false →
        (node.put (file written false) other).holdsDirectory location = false) := by
  induction location generalizing node other with
  | nil =>
      refine ⟨trivial, fun plain => ?_⟩
      cases other with
      | nil => rfl
      | cons name rest => rwa [holdsDirectory_put_nil]
  | cons name rest ih =>
      obtain ⟨holds, inside⟩ := takes
      cases other with
      | nil =>
          cases there
          cases holds
      | cons another later =>
          rw [at?_cons] at there
          obtain ⟨held, found, below⟩ := Option.bind_eq_some_iff.mp there
          by_cases same : name = another
          · subst same
            obtain ⟨takes, free⟩ := ih (inside held found) below
            have entry := @child?_put_self node (file written false) holds name later
            rw [found, Option.getD_some] at entry
            constructor
            · refine ⟨by rwa [holdsDirectory_put_nil], fun child is => ?_⟩
              rw [entry] at is
              cases is
              exact takes
            · rw [holdsDirectory_cons, holdsDirectory_cons, entry, found]
              exact free
          · have entry := @child?_put_ne node (file written false) holds another name later same
            constructor
            · refine ⟨by rwa [holdsDirectory_put_nil], fun child is => ?_⟩
              rw [entry] at is
              exact inside child is
            · rw [holdsDirectory_cons, holdsDirectory_cons, entry]
              exact id

/-- Whatever is found was led to through directories. -/
theorem takes_of_at? (found : node.at? location = some child) : node.Takes location := by
  induction location generalizing node with
  | nil => trivial
  | cons name rest ih =>
      rw [at?_cons] at found
      obtain ⟨held, is, found⟩ := Option.bind_eq_some_iff.mp found
      refine ⟨directory_of_child? is, fun child entry => ?_⟩
      rw [is] at entry
      cases entry
      exact ih found

theorem takes_of_holdsDirectory (holds : node.holdsDirectory location = true) : node.Takes location := by
  unfold holdsDirectory at holds
  split at holds
  · rename_i found
    exact takes_of_at? found
  · cases holds

/-- A directory takes any name. -/
theorem takes_append (holds : node.holdsDirectory location = true) (name : String) :
    node.Takes (location ++ [name]) := by
  induction location generalizing node with
  | nil => exact ⟨holds, fun _ _ => trivial⟩
  | cons first rest ih =>
      rw [holdsDirectory_cons] at holds
      cases found : node.child? first with
      | none =>
          rw [found] at holds
          cases holds
      | some held =>
          rw [found] at holds
          refine ⟨directory_of_child? found, fun child is => ?_⟩
          rw [found] at is
          cases is
          exact ih holds

theorem takes_dropLast (takes : node.Takes location) : node.Takes location.dropLast := by
  induction location generalizing node with
  | nil => trivial
  | cons name rest ih =>
      cases rest with
      | nil => trivial
      | cons next later =>
          obtain ⟨holds, inside⟩ := takes
          exact ⟨holds, fun child found => ih (inside child found)⟩

end FileNode

namespace FileTree

variable {tree : FileTree} {path name : String} {location other start : List String}

theorem step_of_directory (holds : tree.root.holdsDirectory start = true) (name : String) :
    tree.step start name =
      if name == "." then .ok start
      else if name == ".." then .ok start.dropLast
      else if name.utf8ByteSize > maxName then .error (.system .nameTooLong)
      else .ok (start ++ [name]) := by
  unfold FileNode.holdsDirectory at holds
  unfold step
  split at holds
  · rename_i found
    rw [found]
  · cases holds

theorem directory_of_step (stepped : tree.step start name = .ok location) :
    tree.root.holdsDirectory start = true := by
  unfold step at stepped
  unfold FileNode.holdsDirectory
  split at stepped
  · cases stepped
  · rename_i found
    rw [found]
  · cases stepped

theorem takes_step (stepped : tree.step start name = .ok location) : tree.root.Takes location := by
  have holds := directory_of_step stepped
  rw [step_of_directory holds] at stepped
  have takes := FileNode.takes_of_holdsDirectory holds
  split at stepped
  · cases stepped
    exact takes
  · split at stepped
    · cases stepped
      exact FileNode.takes_dropLast takes
    · split at stepped
      · cases stepped
      · cases stepped
        exact FileNode.takes_append holds name

/-- Steps that lead somewhere lead there in every tree with the same directories. -/
theorem foldlM_step {later : FileTree} (kept : ∀ place, tree.root.holdsDirectory place = true →
      later.root.holdsDirectory place = true) {names : List String}
    (led : names.foldlM tree.step start = .ok location) :
    names.foldlM later.step start = .ok location ∧ (names ≠ [] → tree.root.Takes location) := by
  induction names generalizing start with
  | nil => exact ⟨led, fun some => absurd rfl some⟩
  | cons name rest ih =>
      rw [List.foldlM_cons] at led ⊢
      cases stepped : tree.step start name with
      | error failure =>
          rw [stepped] at led
          cases led
      | ok next =>
          rw [stepped] at led
          have holds := directory_of_step stepped
          have same : later.step start name = .ok next := by
            rw [step_of_directory (kept start holds), ← step_of_directory holds]
            exact stepped
          obtain ⟨goes, takes⟩ := ih led
          rw [same]
          refine ⟨goes, fun _ => ?_⟩
          cases rest with
          | nil =>
              cases led
              exact takes_step stepped
          | cons _ _ => exact takes nofun

/-- The path leads to the location, and a file can be put there. -/
structure Offers (tree : FileTree) (path : String) (location : List String) : Prop where
  leads : tree.place path = .ok ⟨location, false⟩
  takes : tree.root.Takes location
  free : tree.root.holdsDirectory location = false

/-- A path without a name in it is a row of slashes. -/
theorem names_ne_nil (some : path.isEmpty = false) (relative : path.toList.head? ≠ .some '/') :
    names path ≠ [] := by
  cases characters : path.toList with
  | nil =>
      rw [String.toList_eq_nil_iff.mp characters] at some
      cases some
  | cons first rest =>
      have head : path.toList.head? = .some first := by rw [characters]; rfl
      have other : first ≠ '/' := by
        rintro rfl
        exact relative head
      obtain ⟨piece, member, filled⟩ := exists_mem_pieces head other
      apply List.ne_nil_of_mem
      refine List.mem_filter.mpr ⟨member, ?_⟩
      simpa [String.isEmpty_iff] using filled

/-- What a path leads to, told by its steps. -/
theorem place_eq_ok_iff (tree : FileTree) (path : String) (place : FilePlace) :
    tree.place path = .ok place ↔
      path.toList.contains '\x00' = false ∧ path.isEmpty = false ∧ path.utf8ByteSize ≤ maxPath ∧
        (names path).foldlM tree.step (if path.toList.head? = some '/' then [] else tree.working) =
          .ok place.location ∧ place.slashed = path.endsWith "/" := by
  unfold FileTree.place
  cases path.toList.contains '\x00' with
  | true => simp
  | false =>
      cases path.isEmpty with
      | true => simp
      | false =>
          by_cases long : path.utf8ByteSize > maxPath
          · simp [long, Nat.not_le.mpr long]
          · simp only [Bool.false_eq_true, if_false, long, true_and, Nat.not_lt.mp long]
            cases (names path).foldlM tree.step _ with
            | error failure => simp [bind, Except.bind]
            | ok found =>
                simp only [bind, Except.bind, pure, Except.pure, Except.ok.injEq]
                constructor
                · rintro rfl
                  exact ⟨rfl, rfl⟩
                · rintro ⟨rfl, slashed⟩
                  rw [← slashed]

theorem takes_of_place {place : FilePlace} (led : tree.place path = .ok place) :
    tree.root.Takes place.location := by
  obtain ⟨-, some, -, steps, -⟩ := (tree.place_eq_ok_iff path place).mp led
  obtain ⟨-, takes⟩ := @foldlM_step tree _ _ tree (fun _ => id) _ steps
  by_cases rooted : path.toList.head? = .some '/'
  · by_cases none : names path = []
    · rw [none, if_pos rooted] at steps
      have root : [] = place.location := Except.ok.inj steps
      rw [← root]
      trivial
    · exact takes none
  · exact takes (names_ne_nil some rooted)

/-- Where a file can be created, it can be put. -/
theorem offers_of_creatable {before : Option Buffer}
    (creatable : tree.creatable path = .ok (location, before)) : tree.Offers path location := by
  unfold FileTree.creatable at creatable
  cases led : tree.place path with
  | error failure =>
      rw [led] at creatable
      cases creatable
  | ok place =>
      obtain ⟨found, slashed⟩ := place
      rw [led] at creatable
      have takes := takes_of_place led
      cases slashed with
      | true => cases creatable
      | false =>
          simp only [bind, Except.bind, Bool.false_eq_true, if_false] at creatable
          have free : tree.root.holdsDirectory found = false := by
            unfold FileNode.holdsDirectory
            split
            · rename_i directory
              rw [directory] at creatable
              cases creatable
            · rfl
          have same : found = location := by
            split at creatable <;> cases creatable <;> rfl
          subst same
          exact ⟨led, takes, free⟩

/-- The path leads to the same location once a file was put where no directory is. -/
theorem place_store (free : tree.root.holdsDirectory other = false) (bytes : Buffer)
    {place : FilePlace} (led : tree.place path = .ok place) :
    (tree.store other bytes).place path = .ok place := by
  obtain ⟨clean, some, long, steps, slashed⟩ := (tree.place_eq_ok_iff path place).mp led
  refine ((tree.store other bytes).place_eq_ok_iff path place).mpr ⟨clean, some, long, ?_, slashed⟩
  exact (@foldlM_step tree _ _ (tree.store other bytes)
    (fun _ holds => FileNode.holdsDirectory_put free holds) _ steps).1

/-- A file was put there. -/
theorem Offers.store (offers : tree.Offers path location) (bytes : Buffer) :
    (tree.store location bytes).Offers path location ∧
      (tree.store location bytes).root.at? location = some (.file bytes false) := by
  have found := @FileNode.at?_put_self _ (.file bytes false) _ offers.takes
  refine ⟨⟨place_store offers.free bytes offers.leads, FileNode.takes_of_at? found, ?_⟩, found⟩
  unfold FileNode.holdsDirectory
  change (match (tree.root.put (.file bytes false) location).at? location with
    | some (.directory _) => true
    | _ => false) = false
  rw [found]

/-- Another file was written to. -/
theorem Offers.store_other (offers : tree.Offers path location) {held : Buffer} {executable : Bool}
    (there : tree.root.at? other = some (.file held executable)) (bytes : Buffer) :
    (tree.store other bytes).Offers path location := by
  obtain ⟨takes, free⟩ := @FileNode.takes_put _ _ _ held bytes executable offers.takes there
  have plain : tree.root.holdsDirectory other = false := by
    unfold FileNode.holdsDirectory
    rw [there]
  exact ⟨place_store plain bytes offers.leads, takes, free offers.free⟩

/-- Whoever opens the path finds what was put there. -/
theorem Offers.openMapped_store (offers : tree.Offers path location) (bytes : Buffer) :
    (tree.store location bytes).openMapped path = .ok (location, bytes) := by
  obtain ⟨after, found⟩ := offers.store bytes
  simp only [openMapped, find, after.leads, bind, Except.bind, found]
  rfl

end FileTree

end RecordRing
