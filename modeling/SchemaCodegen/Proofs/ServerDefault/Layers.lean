import SchemaCodegen.Proofs.ServerDefault.Parentheses

/-!
# Proofs: expressions without the parentheses around them

The parentheses around an expression lie in layers, with blanks between one layer and the next. What
is removed with them is such a sequence of layers, each of which closes where it should; what is
left is wrapped in none. However many layers lie around a balanced expression, the same is left.
-/

namespace SchemaCodegen.ServerDefault

open SchemaCodegen.Text

/-! ## Layers -/

/-- A pair of parentheses around an expression, with blanks between it and the expression. -/
structure Layer where
  /-- What stands behind the opening parenthesis. -/
  before : List Char
  /-- What stands in front of the closing parenthesis. -/
  after : List Char
  /-- Only blanks stand behind the opening parenthesis. -/
  isBlank_before : ∀ c ∈ before, isBlank c = true
  /-- Only blanks stand in front of the closing parenthesis. -/
  isBlank_after : ∀ c ∈ after, isBlank c = true

namespace Layer

/-- What stands between the parentheses of the layer. -/
def content (layer : Layer) (cs : List Char) : List Char :=
  layer.before ++ cs ++ layer.after

/-- The expression in several layers, the outermost first. -/
def wrap : List Layer → List Char → List Char
  | [], cs => cs
  | layer :: layers, cs => '(' :: (layer.content (wrap layers cs) ++ [')'])

/-- What layers put in front of an expression. -/
def opening : List Layer → List Char
  | [] => []
  | layer :: layers => '(' :: (layer.before ++ opening layers)

/-- What layers put behind an expression. -/
def closing : List Layer → List Char
  | [] => []
  | layer :: layers => closing layers ++ layer.after ++ [')']

theorem wrap_eq (layers : List Layer) (cs : List Char) :
    wrap layers cs = opening layers ++ cs ++ closing layers := by
  induction layers with
  | nil => simp [wrap, opening, closing]
  | cons layer layers ih =>
    rw [wrap, content, ih, opening, closing]
    simp only [List.cons_append, List.append_assoc]

theorem wrap_append (outer inner : List Layer) (cs : List Char) :
    wrap (outer ++ inner) cs = wrap outer (wrap inner cs) := by
  induction outer with
  | nil => rfl
  | cons layer outer ih => rw [List.cons_append, wrap, wrap, ih]

/-- Blanks between the parentheses and the expression do not matter to its balance. -/
theorem isBalanced_content (layer : Layer) (cs : List Char) :
    isBalanced (layer.content cs) = isBalanced cs := by
  rw [content, isBalanced_append_blanks layer.isBlank_after,
    isBalanced_append (isBalanced_of_isBlank layer.isBlank_before)]

theorem isBalanced_wrap {cs : List Char} (h : isBalanced cs = true) (layers : List Layer) :
    isBalanced (wrap layers cs) = true := by
  induction layers with
  | nil => exact h
  | cons layer layers ih => exact isBalanced_between ((layer.isBalanced_content _).trans ih)

/-- What layers put in front of an expression opens no literal. -/
theorem scan_opening (layers : List Layer) (depth : Nat) :
    Balance.scan ⟨false, depth⟩ (opening layers) = some ⟨false, depth + layers.length⟩ := by
  induction layers generalizing depth with
  | nil => rfl
  | cons layer layers ih =>
    have hblanks : Balance.scan ⟨false, depth + 1⟩ layer.before = some ⟨false, depth + 1⟩ :=
      Balance.scan_of_forall fun c hc => not_mark_of_isBlank (layer.isBlank_before c hc)
    rw [opening, Balance.scan, Balance.step_open]
    change Balance.scan ⟨false, depth + 1⟩ (layer.before ++ opening layers) = _
    rw [Balance.scan_append, hblanks, Option.bind_some, ih, List.length_cons, Nat.add_right_comm,
      Nat.add_assoc]

end Layer

/-! ## Matching parentheses -/

/-- The parenthesis behind the front of an expression opens outside literals and is closed by the
one in front of the back. -/
structure IsPair (cs front body back : List Char) : Prop where
  /-- The two parentheses stand around the body. -/
  split : cs = front ++ '(' :: (body ++ ')' :: back)
  /-- The first one stands outside literals. -/
  outside : ∃ depth, Balance.scan {} front = some ⟨false, depth⟩
  /-- All that opens between them is closed between them. -/
  balanced : isBalanced body = true

/-- The parentheses of every layer around a balanced expression match. -/
theorem isPair_wrap {cs : List Char} (h : isBalanced cs = true) (outer : List Layer) (layer : Layer)
    (inner : List Layer) :
    IsPair (Layer.wrap (outer ++ layer :: inner) cs) (Layer.opening outer)
      (layer.content (Layer.wrap inner cs)) (Layer.closing outer) where
  split := by
    rw [Layer.wrap_append, Layer.wrap_eq outer, Layer.wrap]
    simp only [List.cons_append, List.append_assoc, List.nil_append]
  outside := ⟨_, Layer.scan_opening outer 0⟩
  balanced := (layer.isBalanced_content _).trans (Layer.isBalanced_wrap h inner)

/-! ## Taking layers away -/

theorem isBalanced_unwrap (n : Nat) (cs : List Char) :
    isBalanced (unwrap n cs) = isBalanced cs := by
  induction n generalizing cs with
  | zero => rfl
  | succ n ih =>
    cases hwrapped : isWrapped cs with
    | true =>
      obtain ⟨body, rfl, hbody⟩ := isWrapped_iff.1 hwrapped
      rw [unwrap_of_isWrapped hwrapped, ih, inner_between, isBalanced_strip, hbody,
        isBalanced_between hbody]
    | false => rw [unwrap_of_not_isWrapped hwrapped]

/-- What is taken away is a sequence of layers, and none from an expression that is not
balanced. -/
theorem exists_layers_unwrap (n : Nat) (cs : List Char) :
    ∃ layers, cs = Layer.wrap layers (unwrap n cs) ∧ (layers ≠ [] → isBalanced cs = true) := by
  induction n generalizing cs with
  | zero => exact ⟨[], rfl, fun h => absurd rfl h⟩
  | succ n ih =>
    cases hwrapped : isWrapped cs with
    | true =>
      obtain ⟨body, rfl, hbody⟩ := isWrapped_iff.1 hwrapped
      obtain ⟨before, after, hbefore, hafter, hsplit⟩ := exists_strip_append body
      obtain ⟨layers, hlayers, _⟩ := ih (strip body)
      refine ⟨⟨before, after, hbefore, hafter⟩ :: layers, ?_, fun _ => isBalanced_between hbody⟩
      rw [unwrap_of_isWrapped hwrapped, inner_between, Layer.wrap, ← hlayers, Layer.content,
        ← hsplit]
    | false =>
      rw [unwrap_of_not_isWrapped hwrapped]
      exact ⟨[], rfl, fun h => absurd rfl h⟩

theorem stripParensOf_wrap {cs : List Char} (h : isBalanced cs = true) (layers : List Layer) :
    stripParensOf (Layer.wrap layers cs) = stripParensOf cs := by
  induction layers with
  | nil => rfl
  | cons layer layers ih =>
    have hcontent : isBalanced (layer.content (Layer.wrap layers cs)) = true :=
      (layer.isBalanced_content _).trans (Layer.isBalanced_wrap h layers)
    rw [Layer.wrap, stripParensOf_between hcontent, ← stripParensOf_strip, Layer.content,
      strip_append_blanks layer.isBlank_before layer.isBlank_after, stripParensOf_strip, ih]

/-! ## What is left -/

theorem toList_stripParens (expression : String) :
    (stripParens expression).toList = stripParensOf expression.toList :=
  String.toList_ofList

theorem isBalanced_stripParensOf (cs : List Char) : isBalanced (stripParensOf cs) = isBalanced cs :=
  (isBalanced_unwrap _ _).trans (isBalanced_strip cs)

/-- What is left of an expression without the blanks and the parentheses around it. -/
structure IsWithoutLayers (cs rest : List Char) : Prop where
  /-- The expression is what is left in layers, and the parentheses of each of them match. -/
  layers : ∃ layers, strip cs = Layer.wrap layers rest ∧
    ∀ outer layer inner, layers = outer ++ layer :: inner →
      IsPair (strip cs) (Layer.opening outer) (layer.content (Layer.wrap inner rest))
        (Layer.closing outer)
  /-- No pair of parentheses wraps what is left. -/
  bare : ∀ body, rest = '(' :: (body ++ [')']) → isBalanced body = false
  /-- What is left is balanced exactly if the expression is. -/
  balanced : isBalanced rest = isBalanced cs

theorem isWithoutLayers_stripParensOf (cs : List Char) : IsWithoutLayers cs (stripParensOf cs) := by
  refine { layers := ?_, bare := ?_, balanced := isBalanced_stripParensOf cs }
  · -- layers
    obtain ⟨layers, hlayers, hbalanced⟩ := exists_layers_unwrap cs.length (strip cs)
    rw [← stripParensOf] at hlayers
    refine ⟨layers, hlayers, fun outer layer inner hsplit => ?_⟩
    have hrest : isBalanced (stripParensOf cs) = true := by
      rw [isBalanced_stripParensOf, ← isBalanced_strip]
      exact hbalanced (by simp [hsplit])
    rw [hlayers, hsplit]
    exact isPair_wrap hrest outer layer inner
  · -- bare
    intro body hbody
    have hnot := isWrapped_stripParensOf cs
    rw [← Bool.not_eq_true, isWrapped_iff] at hnot
    rw [← Bool.not_eq_true]
    exact fun h => hnot ⟨body, hbody, h⟩

/-- Removing the parentheses around an expression removes layers whose parentheses match and keeps
all else; nothing is left for a second time, and more layers make no difference to a balanced
expression. -/
theorem isWithoutLayers_stripParens (expression : String) :
    IsWithoutLayers expression.toList (stripParens expression).toList ∧
      stripParens (stripParens expression) = stripParens expression ∧
      (isBalanced expression.toList = true → ∀ layers,
        stripParens (String.ofList (Layer.wrap layers expression.toList)) =
          stripParens expression) := by
  refine ⟨?_, ?_, fun h layers => ?_⟩
  · rw [toList_stripParens]
    exact isWithoutLayers_stripParensOf _
  · rw [stripParens, toList_stripParens, stripParensOf_stripParensOf]
    rfl
  · rw [stripParens, String.toList_ofList, stripParensOf_wrap h]
    rfl

/-- A sum of two terms in parentheses is left alone, and it is what is left of it in layers. -/
theorem stripParens_sum :
    stripParens "(a) + (b)" = "(a) + (b)" ∧ stripParens "( ((a) + (b)))" = "(a) + (b)" := by
  have hsum : stripParens "(a) + (b)" = "(a) + (b)" := by rfl
  have hblank : ∀ c ∈ [' '], isBlank c = true := List.forall_mem_singleton.2 (by decide)
  have hnone : ∀ c ∈ ([] : List Char), isBlank c = true := List.forall_mem_nil _
  obtain ⟨_, _, hwrap⟩ := isWithoutLayers_stripParens "(a) + (b)"
  have hlayers := hwrap (by decide) [⟨[' '], [], hblank, hnone⟩, ⟨[], [], hnone, hnone⟩]
  exact ⟨hsum, hlayers.trans hsum⟩

end SchemaCodegen.ServerDefault
