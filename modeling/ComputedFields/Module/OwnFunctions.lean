/-!
# Functions that a generated module brings along

The lines of the functions that every generated module defines for itself before its getters: conversions, rounding,
and searching and replacing in text.
-/

namespace ComputedFields

/-- The functions that a Python module brings along. -/
def pythonFunctions : List String :=
  [ "def _text(value):",
    "    if value is None:",
    "        return \"\"",
    "    if isinstance(value, bool):",
    "        return \"1\" if value else \"0\"",
    "    if isinstance(value, float) and value.is_integer():",
    "        return str(int(value))",
    "    if isinstance(value, (list, tuple)):",
    "        return \", \".join(_text(v) for v in value)",
    "    return str(value)",
    "",
    "",
    "def _num(value):",
    "    if isinstance(value, (list, tuple)) and len(value) == 1:",
    "        value = value[0]",
    "    if value is None:",
    "        return 0",
    "    if isinstance(value, bool):",
    "        return int(value)",
    "    if isinstance(value, str):",
    "        return float(value)",
    "    return value",
    "",
    "",
    "def _t(value):",
    "    return value if isinstance(value, str) else \"\"",
    "",
    "",
    "def _flatten(values):",
    "    out = []",
    "    for value in values:",
    "        if isinstance(value, (list, tuple)):",
    "            out.extend(_flatten(value))",
    "        else:",
    "            out.append(value)",
    "    return out",
    "",
    "",
    "def _numbers(values):",
    "    return [",
    "        v for v in _flatten(values) if isinstance(v, (int, float)) and not isinstance(v, bool)",
    "    ]",
    "",
    "",
    "def _average(values):",
    "    return sum(values) / len(values) if values else 0",
    "",
    "",
    "def _round(value, digits=0):",
    "    factor = 10 ** int(digits)",
    "    return math.copysign(math.floor(abs(value) * factor + 0.5), value) / factor",
    "",
    "",
    "def _round_up(value, digits=0):",
    "    factor = 10 ** int(digits)",
    "    return math.copysign(math.ceil(abs(value) * factor), value) / factor",
    "",
    "",
    "def _round_down(value, digits=0):",
    "    factor = 10 ** int(digits)",
    "    return math.copysign(math.floor(abs(value) * factor), value) / factor",
    "",
    "",
    "def _right(text, count=1):",
    "    text = _text(text)",
    "    count = int(count)",
    "    return text[max(len(text) - count, 0):] if count > 0 else \"\"",
    "",
    "",
    "def _search(needle, haystack, start=1):",
    "    pos = _text(haystack).lower().find(_text(needle).lower(), max(int(start) - 1, 0))",
    "    return None if pos < 0 else pos + 1",
    "",
    "",
    "def _substitute(text, old, new, nth=None):",
    "    text, old, new = _text(text), _text(old), _text(new)",
    "    if not old:",
    "        return text",
    "    if nth is None:",
    "        return text.replace(old, new)",
    "    if int(nth) < 1:",
    "        return text",
    "    pos = text.find(old)",
    "    for _ in range(int(nth) - 1):",
    "        if pos < 0:",
    "            break",
    "        pos = text.find(old, pos + len(old))",
    "    if pos < 0:",
    "        return text",
    "    return text[:pos] + new + text[pos + len(old):]",
    "",
    "",
    "def _replace(text, start, count, new):",
    "    text = _text(text)",
    "    begin = max(int(start) - 1, 0)",
    "    return text[:begin] + _text(new) + text[begin + max(int(count), 0):]",
    "",
    "",
    "def _value(text):",
    "    cleaned = \"\".join(c for c in _text(text) if c.isdigit() or c in \".-eE\")",
    "    try:",
    "        return float(cleaned)",
    "    except ValueError:",
    "        return None" ]

/-- The functions that a JavaScript module brings along. -/
def javascriptFunctions : List String :=
  [ "function _text(value) \x7b",
    "  if (value === null || value === undefined) return \"\";",
    "  if (typeof value === \"boolean\") return value ? \"1\" : \"0\";",
    "  if (Array.isArray(value)) return value.map(_text).join(\", \");",
    "  return String(value);",
    "\x7d",
    "",
    "function _num(value) \x7b",
    "  if (Array.isArray(value) && value.length === 1) value = value[0];",
    "  if (value === null || value === undefined) return 0;",
    "  if (typeof value === \"boolean\") return value ? 1 : 0;",
    "  if (typeof value === \"string\") return value.trim() === \"\" ? NaN : Number(value);",
    "  return value;",
    "\x7d",
    "",
    "function _t(value) \x7b",
    "  return typeof value === \"string\" ? value : \"\";",
    "\x7d",
    "",
    "function _flatten(values) \x7b",
    "  return values.reduce(",
    "    (out, value) => (Array.isArray(value) ? out.concat(_flatten(value)) : out.concat([value])),",
    "    []",
    "  );",
    "\x7d",
    "",
    "function _numbers(values) \x7b",
    "  return _flatten(values).filter((v) => typeof v === \"number\" && !Number.isNaN(v));",
    "\x7d",
    "",
    "function _average(values) \x7b",
    "  return values.length ? values.reduce((a, b) => a + b, 0) / values.length : 0;",
    "\x7d",
    "",
    "function _max(values) \x7b",
    "  return values.length ? Math.max(...values) : null;",
    "\x7d",
    "",
    "function _min(values) \x7b",
    "  return values.length ? Math.min(...values) : null;",
    "\x7d",
    "",
    "function _round(value, digits = 0) \x7b",
    "  const factor = Math.pow(10, digits);",
    "  return (Math.sign(value) * Math.floor(Math.abs(value) * factor + 0.5)) / factor;",
    "\x7d",
    "",
    "function _roundUp(value, digits = 0) \x7b",
    "  const factor = Math.pow(10, digits);",
    "  return (Math.sign(value) * Math.ceil(Math.abs(value) * factor)) / factor;",
    "\x7d",
    "",
    "function _roundDown(value, digits = 0) \x7b",
    "  const factor = Math.pow(10, digits);",
    "  return (Math.sign(value) * Math.floor(Math.abs(value) * factor)) / factor;",
    "\x7d",
    "",
    "function _mod(value, divisor) \x7b",
    "  return value - divisor * Math.floor(value / divisor);",
    "\x7d",
    "",
    "function _right(text, count = 1) \x7b",
    "  const s = _text(text);",
    "  return count > 0 ? s.slice(Math.max(s.length - count, 0)) : \"\";",
    "\x7d",
    "",
    "function _search(needle, haystack, start = 1) \x7b",
    "  const pos = _text(haystack)",
    "    .toLowerCase()",
    "    .indexOf(_text(needle).toLowerCase(), Math.max(start - 1, 0));",
    "  return pos < 0 ? null : pos + 1;",
    "\x7d",
    "",
    "function _substitute(text, old, replacement, nth) \x7b",
    "  const s = _text(text);",
    "  const o = _text(old);",
    "  const r = _text(replacement);",
    "  if (!o) return s;",
    "  if (nth === undefined) return s.split(o).join(r);",
    "  if (nth < 1) return s;",
    "  let pos = s.indexOf(o);",
    "  for (let i = 1; i < nth && pos >= 0; i++) \x7b",
    "    pos = s.indexOf(o, pos + o.length);",
    "  \x7d",
    "  if (pos < 0) return s;",
    "  return s.slice(0, pos) + r + s.slice(pos + o.length);",
    "\x7d",
    "",
    "function _replace(text, start, count, replacement) \x7b",
    "  const s = _text(text);",
    "  const begin = Math.max(start - 1, 0);",
    "  return s.slice(0, begin) + _text(replacement) + s.slice(begin + Math.max(count, 0));",
    "\x7d",
    "",
    "function _value(text) \x7b",
    "  const cleaned = _text(text).replace(/[^0-9.eE-]/g, \"\");",
    "  const n = parseFloat(cleaned);",
    "  return Number.isNaN(n) ? null : n;",
    "\x7d" ]

end ComputedFields
