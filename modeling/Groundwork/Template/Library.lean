/-!
# The library of templates

The templates that are at hand everywhere: those of models and controllers, and those of the files
that a new project starts with. Each is given line by line, and every line is ended by a line feed.
-/

namespace Groundwork.Template.Library

/-- The text that consists of some lines. -/
def ofLines (lines : List String) : String :=
  String.ofList (lines.flatMap fun line => line.toList ++ ['\n'])

/-- The name of the template of models. -/
def modelName : String := "snippets/model.py.jinja2"

/-- The name of the template of controllers. -/
def controllerName : String := "snippets/controller.py.jinja2"

/-! ## Models and controllers -/

/-- The template of a model. -/
def model : List String :=
  ["\x7b#- SQLAlchemy model rendered by `oryum make-model` -#\x7d",
    "from sqlalchemy import \x7b\x7b imports | join(\", \") \x7d\x7d",
    "\x7b% if relationships %\x7d",
    "from sqlalchemy.orm import relationship",
    "\x7b% endif %\x7d",
    "\x7b% if needs_date and needs_datetime %\x7d",
    "from datetime import date, datetime",
    "\x7b% elif needs_datetime %\x7d",
    "from datetime import datetime",
    "\x7b% elif needs_date %\x7d",
    "from datetime import date",
    "\x7b% endif %\x7d",
    "from .base import Base",
    "",
    "",
    "class \x7b\x7b model_name \x7d\x7d(Base):",
    "    __tablename__ = '\x7b\x7b table_name \x7d\x7d'",
    "",
    "    id = Column(Integer, primary_key=True)",
    "\x7b% for field in fields %\x7d",
    "    \x7b\x7b field.name \x7d\x7d = Column(\x7b\x7b field.column_type \x7d\x7d, nullable=\x7b\x7b \"True\" if field.nullable else \"False\" \x7d\x7d\x7b% if field.unique %\x7d, unique=True\x7b% endif %\x7d\x7b% if field.index %\x7d, index=True\x7b% endif %\x7d\x7b% if field.default is not none %\x7d, default=\x7b\x7b field.default \x7d\x7d\x7b% endif %\x7d)",
    "\x7b% endfor %\x7d",
    "\x7b% for rel in relationships %\x7d",
    "\x7b% if rel.cardinality == \"one\" %\x7d",
    "    \x7b\x7b rel.foreign_key \x7d\x7d = Column(Integer, ForeignKey('\x7b\x7b rel.target_table \x7d\x7d.id'))",
    "\x7b% endif %\x7d",
    "\x7b% endfor %\x7d",
    "\x7b% if timestamps %\x7d",
    "    created_at = Column(DateTime, default=datetime.utcnow)",
    "    updated_at = Column(DateTime, default=datetime.utcnow, onupdate=datetime.utcnow)",
    "\x7b% endif %\x7d",
    "\x7b% if relationships %\x7d",
    "",
    "\x7b% for rel in relationships %\x7d",
    "    \x7b\x7b rel.name \x7d\x7d = relationship('\x7b\x7b rel.target \x7d\x7d'\x7b% if rel.cardinality == \"one\" %\x7d, uselist=False\x7b% else %\x7d, lazy='select'\x7b% endif %\x7d)",
    "\x7b% endfor %\x7d",
    "\x7b% endif %\x7d",
    "",
    "    def __repr__(self):",
    "        return f'<\x7b\x7b model_name \x7d\x7d \x7bself.id\x7d>'"]

/-- The template of a controller. -/
def controller : List String :=
  ["\x7b#- Flask controller rendered by `oryum make-controller` -#\x7d",
    "from flask import request, flash, redirect, url_for, render_template",
    "from models.base import db",
    "from models.\x7b\x7b file_stem \x7d\x7d import \x7b\x7b model_name \x7d\x7d",
    "",
    "",
    "class \x7b\x7b model_name \x7d\x7dController:",
    "    def index():",
    "        \"\"\"List every \x7b\x7b model_name \x7d\x7d.\"\"\"",
    "        items = \x7b\x7b model_name \x7d\x7d.query.all()",
    "        return render_template('\x7b\x7b file_stem \x7d\x7d/index.html', items=items)",
    "",
    "    def create():",
    "        \"\"\"Show the creation form.\"\"\"",
    "        item = \x7b\x7b model_name \x7d\x7d()",
    "        return render_template('\x7b\x7b file_stem \x7d\x7d/create.html', item=item)",
    "",
    "    def store():",
    "        \"\"\"Persist a new \x7b\x7b model_name \x7d\x7d.\"\"\"",
    "        item = \x7b\x7b model_name \x7d\x7d()",
    "\x7b% for field in fields %\x7d",
    "        item.\x7b\x7b field.name \x7d\x7d = request.form.get('\x7b\x7b field.name \x7d\x7d')",
    "\x7b% endfor %\x7d",
    "        try:",
    "            db.session.add(item)",
    "            db.session.commit()",
    "            flash('\x7b\x7b model_name \x7d\x7d created.', 'success')",
    "            return redirect(url_for('\x7b\x7b file_stem \x7d\x7d.index'))",
    "        except Exception as e:",
    "            db.session.rollback()",
    "            flash(f'Could not create \x7b\x7b model_name \x7d\x7d: \x7be\x7d', 'danger')",
    "            return render_template('\x7b\x7b file_stem \x7d\x7d/create.html', item=item)",
    "",
    "    def show(id):",
    "        \"\"\"Show one \x7b\x7b model_name \x7d\x7d.\"\"\"",
    "        item = \x7b\x7b model_name \x7d\x7d.query.get_or_404(id)",
    "        return render_template('\x7b\x7b file_stem \x7d\x7d/show.html', item=item)",
    "",
    "    def edit(id):",
    "        \"\"\"Show the edit form.\"\"\"",
    "        item = \x7b\x7b model_name \x7d\x7d.query.get_or_404(id)",
    "        return render_template('\x7b\x7b file_stem \x7d\x7d/edit.html', item=item)",
    "",
    "    def update(id):",
    "        \"\"\"Update an existing \x7b\x7b model_name \x7d\x7d.\"\"\"",
    "        item = \x7b\x7b model_name \x7d\x7d.query.get_or_404(id)",
    "\x7b% for field in fields %\x7d",
    "        item.\x7b\x7b field.name \x7d\x7d = request.form.get('\x7b\x7b field.name \x7d\x7d', item.\x7b\x7b field.name \x7d\x7d)",
    "\x7b% endfor %\x7d",
    "        try:",
    "            db.session.commit()",
    "            flash('\x7b\x7b model_name \x7d\x7d updated.', 'success')",
    "            return redirect(url_for('\x7b\x7b file_stem \x7d\x7d.show', id=item.id))",
    "        except Exception as e:",
    "            db.session.rollback()",
    "            flash(f'Could not update \x7b\x7b model_name \x7d\x7d: \x7be\x7d', 'danger')",
    "            return render_template('\x7b\x7b file_stem \x7d\x7d/edit.html', item=item)",
    "",
    "    def destroy(id):",
    "        \"\"\"Delete a \x7b\x7b model_name \x7d\x7d.\"\"\"",
    "        item = \x7b\x7b model_name \x7d\x7d.query.get_or_404(id)",
    "        try:",
    "            db.session.delete(item)",
    "            db.session.commit()",
    "            flash('\x7b\x7b model_name \x7d\x7d removed.', 'success')",
    "            return redirect(url_for('\x7b\x7b file_stem \x7d\x7d.index'))",
    "        except Exception as e:",
    "            db.session.rollback()",
    "            flash(f'Could not remove \x7b\x7b model_name \x7d\x7d: \x7be\x7d', 'danger')",
    "            return redirect(url_for('\x7b\x7b file_stem \x7d\x7d.show', id=item.id))"]

/-! ## The files of a new project -/

/-- The template of the application of a project. -/
def application : List String :=
  ["from flask import Flask, render_template",
    "from models.base import init_db",
    "from routes import register_blueprints",
    "",
    "",
    "def create_app():",
    "    app = Flask(__name__)",
    "    app.config.from_object('config.Config')",
    "",
    "    init_db(app)",
    "    register_blueprints(app)",
    "",
    "    @app.route('/')",
    "    def index():",
    "        return render_template('index.html')",
    "",
    "    return app",
    "",
    "",
    "app = create_app()",
    "",
    "if __name__ == '__main__':",
    "    app.run(debug=True)"]

/-- The template of the configuration of a project. -/
def configuration : List String :=
  ["import os",
    "",
    "",
    "class Config:",
    "    SECRET_KEY = os.environ.get('SECRET_KEY', 'change-me')",
    "    SQLALCHEMY_DATABASE_URI = os.environ.get('DATABASE_URL', 'sqlite:///\x7b\x7b project_name_snake \x7d\x7d.sqlite3')",
    "    SQLALCHEMY_TRACK_MODIFICATIONS = False"]

/-- The template of the program that creates the tables of a project. -/
def initialization : List String :=
  ["\"\"\"Create every table registered in models/__init__.py.\"\"\"",
    "from app import app",
    "from models import db",
    "",
    "with app.app_context():",
    "    db.create_all()",
    "    print('Database for \x7b\x7b project_name \x7d\x7d initialized.')"]

/-- The template of the list of packages that a project needs. -/
def requirements : List String :=
  ["flask>=3.0",
    "flask-sqlalchemy>=3.1",
    "sqlalchemy>=2.0"]

/-- The template of the package of the models of a project. -/
def modelPackage : List String :=
  ["from .base import Base, db"]

/-- The template of the base of the models of a project. -/
def modelBase : List String :=
  ["from flask_sqlalchemy import SQLAlchemy",
    "",
    "db = SQLAlchemy()",
    "Base = db.Model",
    "",
    "",
    "def init_db(app):",
    "    db.init_app(app)"]

/-- The template of the package of the controllers of a project. -/
def controllerPackage : List String := []

/-- The template of the package of the routes of a project. -/
def routePackage : List String :=
  ["def register_blueprints(app):",
    "    \"\"\"Register the blueprints of \x7b\x7b project_name \x7d\x7d.\"\"\""]

/-- The template of the index page of a project. -/
def indexPage : List String :=
  ["<!DOCTYPE html>",
    "<html lang=\"en\">",
    "<head>",
    "    <meta charset=\"utf-8\">",
    "    <title>\x7b\x7b project_name \x7d\x7d</title>",
    "</head>",
    "<body>",
    "    <h1>\x7b\x7b project_name \x7d\x7d</h1>",
    "    <p>Built with the Oryum stack.</p>",
    "</body>",
    "</html>"]

/-! ## The library -/

/-- The templates by name. -/
def templates : List (String × List String) :=
  [(modelName, model),
    (controllerName, controller),
    ("project/app.py.jinja2", application),
    ("project/config.py.jinja2", configuration),
    ("project/init_db.py.jinja2", initialization),
    ("project/requirements.txt.jinja2", requirements),
    ("project/models/__init__.py.jinja2", modelPackage),
    ("project/models/base.py.jinja2", modelBase),
    ("project/controllers/__init__.py.jinja2", controllerPackage),
    ("project/routes/__init__.py.jinja2", routePackage),
    ("project/templates/index.html.jinja2", indexPage)]

/-- The names of the templates. -/
def names : List String := templates.map (·.1)

/-- The source of the template called `name`, if the library has it. -/
def source? (name : String) : Option String := (templates.lookup name).map ofLines

end Groundwork.Template.Library
