/-! The scripts that are evaluated in a page; each is a function of one argument. -/
namespace Walkthrough.PageScript

def ofLines (lines : List String) : String :=
  "\n" ++ "\n".intercalate lines ++ "\n"

def clearValue : String := ofLines [
  "    (selector) => \x7b",
  "        const el = document.querySelector(selector);",
  "        if (el) \x7b",
  "            el.value = '';",
  "            el.dispatchEvent(new Event('input', \x7b bubbles: true \x7d));",
  "            el.dispatchEvent(new Event('change', \x7b bubbles: true \x7d));",
  "        \x7d",
  "    \x7d"]

def scrollElement : String := ofLines [
  "    (\x7b selector, x, y, behavior \x7d) => \x7b",
  "        const el = document.querySelector(selector);",
  "        if (el) \x7b",
  "            el.scrollTo(\x7b left: x || 0, top: y || 0, behavior: behavior || 'auto' \x7d);",
  "        \x7d",
  "    \x7d"]

def scrollWindow : String := ofLines [
  "    (\x7b x, y, behavior \x7d) => \x7b",
  "        window.scrollTo(\x7b left: x || 0, top: y || 0, behavior: behavior || 'auto' \x7d);",
  "    \x7d"]

def scrollIntoView : String := ofLines [
  "    (\x7b selector, block, inline, behavior \x7d) => \x7b",
  "        const el = document.querySelector(selector);",
  "        if (el) \x7b",
  "            el.scrollIntoView(\x7b",
  "                block: block || 'center',",
  "                inline: inline || 'nearest',",
  "                behavior: behavior || 'auto'",
  "            \x7d);",
  "        \x7d",
  "    \x7d"]

/-- Tells whether the first match of a selector is shown. -/
def firstMatchVisible : String := ofLines [
  "    (selector) => \x7b",
  "        const el = document.querySelector(selector);",
  "        if (!el) return false;",
  "        const style = window.getComputedStyle(el);",
  "        return style.display !== 'none' && style.visibility !== 'hidden' && style.opacity !== '0';",
  "    \x7d"]

end Walkthrough.PageScript
