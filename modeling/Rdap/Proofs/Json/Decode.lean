import Mathlib
import Rdap.Json.Shape
import Rdap.Proofs.Text.Case
/-!
# Which trees decode

Decoding a tree against a shape (`Rdap.Json.decode`) fails on the first value
that does not fit its place. Whether it fails depends on the tree and the shape
alone, and never on what the place held before: a member given twice is decoded
into what the first left, but what is left never makes the second fail.

`Rdap.Json.Shape.fits` says declaratively which trees fit a shape: `null` fits
every shape; a free value fits when its numbers are within the range of a
float; a string, a truth value or an integer literal within 64 bits fits its
own shape; a list or a map fits when its items do; and a record fits when every
member whose key names one of its members fits that member's shape, members
that it does not name being ignored.

The main statement (`Rdap.Json.decode_ok_iff`) is that decoding succeeds
exactly on the trees that fit; `Rdap.Json.decodeText_ok_iff` reads it off for a
whole text.
-/

namespace Rdap.Json

mutual

/-- **Whether a tree fits a shape**: decoding it there cannot fail. -/
def Shape.fits (sc : Schema) (s : Shape) : Tree → Bool
  | .null => true
  | .bool _ => match s.unopt with
    | .any | .bool => true
    | _ => false
  | .num lit => match s.unopt with
    | .any => (floatOfLiteral? lit).isSome
    | .int _ => (int64OfLiteral? lit).isSome
    | _ => false
  | .str _ => match s.unopt with
    | .any | .string => true
    | _ => false
  | .arr items => match s.unopt with
    | .any => Shape.fitsItems sc .any items
    | .list e => Shape.fitsItems sc e items
    | _ => false
  | .obj members => match s.unopt with
    | .any => Shape.fitsEntries sc .any members
    | .map e => Shape.fitsEntries sc e members
    | .record n => match sc.find? n with
      | some r => Shape.fitsMembers sc r members
      | none => false
    | _ => false

/-- Whether every item of an array fits a shape. -/
def Shape.fitsItems (sc : Schema) (s : Shape) : List Tree → Bool
  | [] => true
  | t :: rest => s.fits sc t && Shape.fitsItems sc s rest

/-- Whether the value of every member of an object fits a shape. -/
def Shape.fitsEntries (sc : Schema) (s : Shape) : List (String × Tree) → Bool
  | [] => true
  | (_, t) :: rest => s.fits sc t && Shape.fitsEntries sc s rest

/-- Whether every member of an object whose key names a member of a record fits
that member's shape. -/
def Shape.fitsMembers (sc : Schema) (r : Record) : List (String × Tree) → Bool
  | [] => true
  | (k, t) :: rest =>
    (match r.memberFor? k with
      | some m => m.shape.fits sc t
      | none => true) && Shape.fitsMembers sc r rest

end

theorem Shape.fitsItems_eq_all (sc : Schema) (s : Shape) :
    ∀ items : List Tree, s.fitsItems sc items = items.all (s.fits sc)
  | [] => rfl
  | t :: rest => by rw [Shape.fitsItems, Shape.fitsItems_eq_all sc s rest, List.all_cons]

theorem Shape.fitsMembers_eq_all (sc : Schema) (r : Record) :
    ∀ members : List (String × Tree), Shape.fitsMembers sc r members =
      members.all fun (k, t) => match r.memberFor? k with
        | some m => m.shape.fits sc t
        | none => true
  | [] => rfl
  | (k, t) :: rest => by rw [Shape.fitsMembers, Shape.fitsMembers_eq_all sc r rest, List.all_cons]

/-- **A key names the member it equals up to case**, when no two members of the
record are equal up to case: the exact match that decoding tries first is then
also the first match up to case. -/
theorem Record.memberFor?_eq_find? {r : Record}
    (hdist : r.members.Pairwise fun m m' => Text.equalFold m.key m'.key = false) (k : String) :
    r.memberFor? k = r.members.find? fun m => Text.equalFold m.key k := by
  unfold Record.memberFor?
  cases hexact : r.members.find? (·.key == k) with
  | none => rfl
  | some m =>
    obtain ⟨hkey, before, after, hsplit, -⟩ := List.find?_eq_some_iff_append.mp hexact
    have hk : m.key = k := by simpa using hkey
    -- every member before `m` differs from `m`, so from `k`, up to case
    have hbefore : ∀ a ∈ before, Text.equalFold a.key k = false := by
      rw [hsplit, List.pairwise_append] at hdist
      intro a ha
      simpa [hk] using hdist.2.2 a ha m List.mem_cons_self
    symm
    refine List.find?_eq_some_iff_append.mpr ⟨by simpa [hk] using Text.equalFold_refl k,
      before, after, hsplit, fun a ha => ?_⟩
    simp [hbefore a ha]

/-! ### Binding in `Except` -/

/-- A bound computation succeeds when the first does and the rest does on its
value. -/
theorem bind_ok_iff {ε α β : Type} {x : Except ε α} {f : α → Except ε β} :
    (∃ v, (x >>= f) = .ok v) ↔ ∃ a, x = .ok a ∧ ∃ v, f a = .ok v := by
  cases x with
  | error e => simp [bind, Except.bind]
  | ok a => simp [bind, Except.bind]

/-- Two computations run one after the other, their values combined, succeed
when both do. -/
theorem bind_pair_ok_iff {ε α β γ : Type} {x : Except ε α} {y : Except ε β} {g : α → β → γ} :
    (∃ w, (do let a ← x; let b ← y; pure (g a b)) = .ok w) ↔
      (∃ a, x = .ok a) ∧ ∃ b, y = .ok b := by
  cases x with
  | error e => simp [bind, Except.bind]
  | ok a => cases y <;> simp [bind, Except.bind, pure, Except.pure]

/-- A mapped computation succeeds when the computation does. -/
theorem map_ok_iff {ε α β : Type} {x : Except ε α} {f : α → β} :
    (∃ v, (f <$> x) = .ok v) ↔ ∃ a, x = .ok a := by
  cases x with
  | error e => simp [Functor.map, Except.map]
  | ok a => simp [Functor.map, Except.map]

theorem pure_ok {ε α : Type} (a : α) : ∃ v, (pure a : Except ε α) = .ok v := ⟨a, rfl⟩

@[simp] theorem Shape.unopt_any : Shape.any.unopt = .any := rfl

/-! ### Free values -/

mutual

/-- **A free value decodes exactly when its numbers are floats.** -/
theorem decodeAny_ok_iff (sc : Schema) (root : String) (path : List Step) :
    ∀ t : Tree, (∃ v, decodeAny root path t = .ok v) ↔ Shape.any.fits sc t = true
  | .null => by simpa [decodeAny, Shape.fits] using pure_ok _
  | .bool b => by simpa [decodeAny, Shape.fits] using pure_ok _
  | .str s => by simpa [decodeAny, Shape.fits] using pure_ok _
  | .num lit => by
    simp only [decodeAny, Shape.fits, Shape.unopt_any]
    cases floatOfLiteral? lit
    · simp [throw, throwThe, MonadExceptOf.throw]
    · simpa using pure_ok _
  | .arr items => by
    rw [decodeAny, map_ok_iff, Shape.fits, Shape.unopt_any,
      ← decodeAnyItems_ok_iff sc root path 0 items]
  | .obj members => by
    rw [decodeAny, map_ok_iff, Shape.fits, Shape.unopt_any,
      ← decodeAnyMembers_ok_iff sc root path members]

theorem decodeAnyItems_ok_iff (sc : Schema) (root : String) (path : List Step) :
    ∀ (i : Nat) (items : List Tree),
      (∃ vs, decodeAnyItems root path i items = .ok vs) ↔ Shape.fitsItems sc .any items = true
  | _, [] => by simpa [decodeAnyItems, Shape.fitsItems] using pure_ok _
  | i, t :: rest => by
    rw [decodeAnyItems, bind_pair_ok_iff, Shape.fitsItems, Bool.and_eq_true,
      ← decodeAny_ok_iff sc root (path ++ [.index i]) t,
      ← decodeAnyItems_ok_iff sc root path (i + 1) rest]

theorem decodeAnyMembers_ok_iff (sc : Schema) (root : String) (path : List Step) :
    ∀ members : List (String × Tree),
      (∃ vs, decodeAnyMembers root path members = .ok vs) ↔
        Shape.fitsEntries sc .any members = true
  | [] => by simpa [decodeAnyMembers, Shape.fitsEntries] using pure_ok _
  | (k, t) :: rest => by
    rw [decodeAnyMembers, bind_pair_ok_iff, Shape.fitsEntries, Bool.and_eq_true,
      ← decodeAny_ok_iff sc root (path ++ [.key k]) t,
      ← decodeAnyMembers_ok_iff sc root path rest]

end

/-! ### Decoding against a shape -/

/-- Against a free shape, a tree other than `null` decodes as a free value. -/
theorem decode_ok_iff_of_unopt_any {sc : Schema} {root : String} {path : List Step} {s : Shape}
    {prev : Held} {t : Tree} (hu : s.unopt = .any) (ht : t ≠ .null) :
    (∃ v, decode sc root path s prev t = .ok v) ↔ s.fits sc t = true := by
  rw [decode.eq_6 sc root path s prev t hu ht, map_ok_iff, decodeAny_ok_iff sc root path]
  cases t <;> simp only [Shape.fits, hu, Shape.unopt_any]

mutual

/-- **A tree decodes against a shape exactly when it fits the shape**, whatever
the place held before. -/
theorem decode_ok_iff (sc : Schema) (root : String) (path : List Step) (s : Shape) (prev : Held) :
    ∀ t : Tree, (∃ v, decode sc root path s prev t = .ok v) ↔ s.fits sc t = true
  | .null => by simpa [decode, Shape.fits] using pure_ok _
  | .bool b => by
    cases hu : s.unopt with
    | any => exact decode_ok_iff_of_unopt_any hu nofun
    | bool => simpa [decode.eq_8 _ _ _ _ _ _ hu, Shape.fits, hu] using pure_ok _
    | _ => simp [decode.eq_16, hu, Shape.fits]
  | .str x => by
    cases hu : s.unopt with
    | any => exact decode_ok_iff_of_unopt_any hu nofun
    | string => simpa [decode.eq_7 _ _ _ _ _ _ hu, Shape.fits, hu] using pure_ok _
    | _ => simp [decode.eq_16, hu, Shape.fits]
  | .num lit => by
    cases hu : s.unopt with
    | any => exact decode_ok_iff_of_unopt_any hu nofun
    | int n =>
      rw [decode.eq_9 _ _ _ _ _ _ _ hu, Shape.fits, hu]
      cases int64OfLiteral? lit <;> simp [pure_ok]
    | _ => simp [decode.eq_16, hu, Shape.fits]
  | .arr items => by
    cases hu : s.unopt with
    | any => exact decode_ok_iff_of_unopt_any hu nofun
    | list e =>
      -- the items held before only seed the decoding of each item
      by_cases hp : ∃ xs past, prev = .list xs past
      on_goal 1 =>
        obtain ⟨xs, past, rfl⟩ := hp
        rw [decode.eq_10 _ _ _ _ _ _ _ _ hu]
      on_goal 2 => rw [decode.eq_11 _ _ _ _ _ _ _ hu (fun xs past h => hp ⟨xs, past, h⟩)]
      all_goals
        cases items with
        | nil => simpa [Shape.fits, hu, Shape.fitsItems] using pure_ok _
        | cons t rest =>
          rw [if_neg (by simp), bind_ok_iff, Shape.fits, hu]
          simpa [pure_ok] using decodeItems_ok_iff sc root path e _ 0 (t :: rest)
    | _ => simp [decode.eq_16, hu, Shape.fits]
  | .obj members => by
    cases hu : s.unopt with
    | any => exact decode_ok_iff_of_unopt_any hu nofun
    | map e =>
      -- the entries a map held before are kept, but never checked again
      by_cases hp : ∃ fs, prev = .plain (.obj fs)
      on_goal 1 =>
        obtain ⟨fs, rfl⟩ := hp
        rw [decode.eq_12 _ _ _ _ _ _ _ hu]
      on_goal 2 => rw [decode.eq_13 _ _ _ _ _ _ _ hu (fun fs h => hp ⟨fs, h⟩)]
      all_goals
        rw [bind_ok_iff, Shape.fits, hu]
        simpa [pure_ok] using decodeEntries_ok_iff sc root path e members
    | record n =>
      by_cases hp : ∃ fs, prev = .record fs
      on_goal 1 =>
        obtain ⟨fs, rfl⟩ := hp
        rw [decode.eq_14 _ _ _ _ _ _ _ hu]
      on_goal 2 => rw [decode.eq_15 _ _ _ _ _ _ _ hu (fun fs h => hp ⟨fs, h⟩)]
      all_goals
        simp only [Shape.fits, hu]
        cases sc.find? n with
        | none => simp
        | some r => rw [map_ok_iff, ← decodeMembers_ok_iff sc root path r _ members]
    | _ => simp [decode.eq_16, hu, Shape.fits]

/-- The items of an array decode exactly when each fits the shape. -/
theorem decodeItems_ok_iff (sc : Schema) (root : String) (path : List Step) (s : Shape) :
    ∀ (before : List Held) (i : Nat) (items : List Tree),
      (∃ vs, decodeItems sc root path s before i items = .ok vs) ↔ s.fitsItems sc items = true
  | _, _, [] => by simpa [decodeItems, Shape.fitsItems] using pure_ok _
  | before, i, t :: rest => by
    rw [decodeItems, bind_pair_ok_iff, Shape.fitsItems, Bool.and_eq_true,
      ← decode_ok_iff sc root (path ++ [.index i]) s _ t,
      ← decodeItems_ok_iff sc root path s before.tail (i + 1) rest]

/-- The members of an object decode as entries of a map exactly when each value
fits the shape. -/
theorem decodeEntries_ok_iff (sc : Schema) (root : String) (path : List Step) (s : Shape) :
    ∀ members : List (String × Tree),
      (∃ es, decodeEntries sc root path s members = .ok es) ↔ s.fitsEntries sc members = true
  | [] => by simpa [decodeEntries, Shape.fitsEntries] using pure_ok _
  | (k, t) :: rest => by
    rw [decodeEntries, bind_pair_ok_iff, Shape.fitsEntries, Bool.and_eq_true,
      ← decode_ok_iff sc root (path ++ [.key k]) s _ t,
      ← decodeEntries_ok_iff sc root path s rest]

/-- The members of an object decode into a record exactly when each member it
names fits that member's shape; what the fields held does not matter. -/
theorem decodeMembers_ok_iff (sc : Schema) (root : String) (path : List Step) (r : Record) :
    ∀ (fields : List (String × Held)) (members : List (String × Tree)),
      (∃ fs, decodeMembers sc root path r fields members = .ok fs) ↔
        Shape.fitsMembers sc r members = true
  | _, [] => by simpa [decodeMembers, Shape.fitsMembers] using pure_ok _
  | fields, (k, t) :: rest => by
    rw [decodeMembers, Shape.fitsMembers, Bool.and_eq_true]
    cases r.memberFor? k with
    | none => simpa using decodeMembers_ok_iff sc root path r fields rest
    | some m =>
      rw [bind_ok_iff, ← decode_ok_iff sc root (path ++ [.key k]) m.shape _ t]
      constructor
      · rintro ⟨v, hv, hrest⟩
        exact ⟨⟨v, hv⟩, (decodeMembers_ok_iff sc root path r _ rest).mp hrest⟩
      · rintro ⟨⟨v, hv⟩, hrest⟩
        exact ⟨v, hv, (decodeMembers_ok_iff sc root path r _ rest).mpr hrest⟩

end

/-- **A text decodes against a shape exactly when it is JSON whose tree fits
the shape.** -/
theorem decodeText_ok_iff (sc : Schema) (root : String) (shape : Shape) (bs : ByteArray) :
    (∃ v, decodeText sc root shape bs = .ok v) ↔
      ∃ t, Tree.read bs = .ok t ∧ shape.fits sc t = true := by
  unfold decodeText
  cases hread : Tree.read bs with
  | error e => simp
  | ok t =>
    simp only [Except.ok.injEq, exists_eq_left']
    rw [← decode_ok_iff sc root [] shape (shape.heldZero sc) t]
    cases decode sc root [] shape (shape.heldZero sc) t <;> simp

end Rdap.Json
